import BytePool.Text.Extending
import BytePool.Text.Unprintable

/-!
# Text in messages

A text between quotes on one line. What cannot be seen there is written as an escape, so a message
shows exactly which characters it speaks of.
-/
namespace BytePool.Text

/-- The fillers of Hangul: letters that are drawn as nothing. -/
def fillers : List Char := ['\u115f', '\u1160', '\u3164', '\uffa0']

/-- The voiced sound marks of half width: they extend the character before them and are still drawn
in a place of their own. -/
def halfwidthMarks : List Char := ['\uff9e', '\uff9f']

example : fillers.all (fun c => !isUnprintable c) ∧ halfwidthMarks.all isExtending := by
  decide +kernel

/-- Whether a character cannot be told from its surroundings when it is written as it is. -/
def isHidden (c : Char) : Bool :=
  isUnprintable c || fillers.contains c || (isExtending c && !halfwidthMarks.contains c)

def hex (n : Nat) : String := String.ofList (Nat.toDigits 16 n)

def quotedChar (c : Char) : String :=
  if c = '\x00' then "\\0"
  else if c = '\t' then "\\t"
  else if c = '\r' then "\\r"
  else if c = '\n' then "\\n"
  else if c = '\\' then "\\\\"
  else if c = '"' then "\\\""
  else if isHidden c then "\\u\x7b" ++ hex c.toNat ++ "\x7d"
  else c.toString

def quoted (text : String) : String :=
  "\"" ++ String.join (text.toList.map quotedChar) ++ "\""

end BytePool.Text
