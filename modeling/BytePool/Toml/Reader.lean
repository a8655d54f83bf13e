/-!
# Readers over characters

A reader takes a first part of a text and hands back what it read together with the rest, or
refuses the text. `many` repeats a reader for as long as it succeeds and takes something, so it
ends on every text.
-/
namespace BytePool.Toml

abbrev Reader (α : Type) := List Char → Option (α × List Char)

variable {α : Type}

/-- What the reader finds from here on, up to where it refuses or takes nothing. -/
def many (read : Reader α) (cs : List Char) : List α × List Char :=
  match read cs with
  | none => ([], cs)
  | some (a, rest) =>
    if rest.length < cs.length then
      let (found, last) := many read rest
      (a :: found, last)
    else ([], cs)
termination_by cs.length

theorem many_of_none {read : Reader α} {cs : List Char} (h : read cs = none) :
    many read cs = ([], cs) := by
  rw [many, h]

theorem many_of_some {read : Reader α} {cs rest : List Char} {a : α}
    (h : read cs = some (a, rest)) (hlt : rest.length < cs.length) :
    many read cs = (a :: (many read rest).1, (many read rest).2) := by
  rw [many, h]
  simp [hlt]

/-- One character that is expected. -/
def char (expected : Char) : List Char → Option (List Char)
  | c :: rest => if c = expected then some rest else none
  | [] => none

/-- Elements with a separator before each but the first. -/
def separated (separator : Char) (read : Reader α) : Reader (List α) := fun cs => do
  let (first, rest) ← read cs
  let (others, rest) := many (fun cs => do read (← char separator cs)) rest
  return (first :: others, rest)

/-! ### Blanks, lines and comments -/

def isBlank (c : Char) : Bool := c = ' ' || c = '\t'

def skipBlanks (cs : List Char) : List Char := cs.dropWhile isBlank

/-- A line ends with a line feed, which a carriage return may precede. -/
def newline : List Char → Option (List Char)
  | '\n' :: rest => some rest
  | '\r' :: '\n' :: rest => some rest
  | _ => none

/-- Control characters other than the tab may stand nowhere. -/
def isAllowed (c : Char) : Bool := c = '\t' || (0x20 ≤ c.toNat && c.toNat ≠ 0x7f)

def skipComment : List Char → List Char
  | '#' :: rest => rest.dropWhile isAllowed
  | cs => cs

/-- The end of a line: blanks, a comment and the newline, or the end of the text. -/
def lineEnd (cs : List Char) : Option (List Char) :=
  match skipComment (skipBlanks cs) with
  | [] => some []
  | rest => newline rest

/-- One blank or one newline. -/
def space : Reader Unit
  | [] => none
  | c :: cs => if isBlank c then some ((), cs) else (newline (c :: cs)).map ((), ·)

/-- One blank, newline or commented line end between the elements of an array. -/
def gap : Reader Unit := fun cs => space (skipComment cs)

def skipGaps (cs : List Char) : List Char := (many gap cs).2

end BytePool.Toml
