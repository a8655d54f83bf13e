import BytePool.Toml.Reader

/-!
# Quoted text

Text between double quotes knows escapes, text between single quotes stands for itself, and either
may run over several lines between three quotes.
-/
namespace BytePool.Toml

def isHexDigit (c : Char) : Bool :=
  c.isDigit || ('a' ≤ c && c ≤ 'f') || ('A' ≤ c && c ≤ 'F')

/-- The value of a digit in any base up to sixteen. -/
def digitValue (c : Char) : Nat :=
  if c.isDigit then c.toNat - '0'.toNat
  else if 'a' ≤ c then c.toNat - 'a'.toNat + 10
  else c.toNat - 'A'.toNat + 10

def ofDigits (base : Nat) (digits : List Char) : Nat :=
  digits.foldl (fun n c => n * base + digitValue c) 0

/-- A character given by the hexadecimal digits of its number. -/
def scalar (digits : Nat) (cs : List Char) : Option (Char × List Char) :=
  let number := ofDigits 16 (cs.take digits)
  if (cs.take digits).length = digits ∧ (cs.take digits).all isHexDigit ∧ number.isValidChar then
    some (Char.ofNat number, cs.drop digits)
  else none

/-- What follows the backslash of an escape. -/
def escape : Reader Char
  | 'b' :: rest => some ('\x08', rest)
  | 't' :: rest => some ('\t', rest)
  | 'n' :: rest => some ('\n', rest)
  | 'f' :: rest => some ('\x0c', rest)
  | 'r' :: rest => some ('\r', rest)
  | '"' :: rest => some ('"', rest)
  | '\\' :: rest => some ('\\', rest)
  | 'u' :: rest => scalar 4 rest
  | 'U' :: rest => scalar 8 rest
  | _ => none

/-- One character between double quotes. -/
def basicChar : Reader Char
  | '\\' :: rest => escape rest
  | c :: rest => if isAllowed c ∧ c ≠ '"' then some (c, rest) else none
  | [] => none

/-- One character between single quotes. -/
def literalChar : Reader Char
  | c :: rest => if isAllowed c ∧ c ≠ '\'' then some (c, rest) else none
  | [] => none

/-- Characters up to the closing quote. -/
def quoted (quote : Char) (read : Reader Char) : Reader String := fun cs => do
  let (text, rest) := many read cs
  return (String.ofList text, ← char quote rest)

/-! ### Several lines -/

/-- One or two quotes before something else are text. -/
def innerQuotes (quote : Char) (cs : List Char) : Option (List Char × List Char) :=
  match cs.span (· = quote) with
  | ([a], rest) => some ([a], rest)
  | ([a, b], rest) => some ([a, b], rest)
  | _ => none

/-- Three quotes close a text, and up to two quotes right before them belong to it. -/
def closingQuotes (quote : Char) (cs : List Char) : Option (List Char × List Char) :=
  match cs.span (· = quote) with
  | ([_, _, _], rest) => some ([], rest)
  | ([a, _, _, _], rest) => some ([a], rest)
  | ([a, b, _, _, _], rest) => some ([a, b], rest)
  | _ => none

/-- A backslash at the end of a line takes with it all blanks and newlines up to the next text. -/
def continuation (cs : List Char) : Option (List Char) :=
  (newline (skipBlanks cs)).map fun rest => (many space rest).2

/-- A newline within text is a line feed however it is written. -/
def innerNewline (cs : List Char) : Option (List Char × List Char) :=
  (newline cs).map fun rest => (['\n'], rest)

def basicPiece : Reader (List Char)
  | '\\' :: rest =>
    match continuation rest with
    | some rest => some ([], rest)
    | none => (escape rest).map fun (c, rest) => ([c], rest)
  | cs => innerQuotes '"' cs <|> innerNewline cs <|>
      (basicChar cs).map fun (c, rest) => ([c], rest)

def literalPiece : Reader (List Char) := fun cs =>
  innerQuotes '\'' cs <|> innerNewline cs <|>
    (literalChar cs).map fun (c, rest) => ([c], rest)

/-- Pieces up to the closing quotes; a newline right after the opening ones is no text. -/
def blockQuoted (quote : Char) (read : Reader (List Char)) : Reader String := fun cs => do
  let (pieces, rest) := many read ((newline cs).getD cs)
  let (last, rest) ← closingQuotes quote rest
  return (String.ofList (pieces.flatten ++ last), rest)

/-- A quoted text that stands on one line, as the names of keys do. -/
def lineText : Reader String
  | '"' :: rest => quoted '"' basicChar rest
  | '\'' :: rest => quoted '\'' literalChar rest
  | _ => none

def text : Reader String
  | '"' :: '"' :: '"' :: rest => blockQuoted '"' basicPiece rest
  | '\'' :: '\'' :: '\'' :: rest => blockQuoted '\'' literalPiece rest
  | cs => lineText cs

end BytePool.Toml
