import BytePool.Toml.Moment
import BytePool.Toml.Number
import BytePool.Toml.Tree

/-!
# Reading keys and values

Arrays and inline tables nest only so deep, which bounds the recursion by the depth that is left.
-/
namespace BytePool.Toml

/-! ### Keys -/

/-- A key in its table, and the tables that a dotted key names before it. -/
structure Key where
  parents : List String
  name : String
  deriving DecidableEq, Repr

/-- Tables, arrays and dotted keys nest less deep than this. -/
def depthLimit : Nat := 80

def isBareKey (c : Char) : Bool := c.isAlphanum || c = '_' || c = '-'

/-- One part of a key, bare or quoted. -/
def keyPart : Reader String := fun cs =>
  match cs.span isBareKey with
  | ([], _) => lineText cs
  | (name, rest) => some (String.ofList name, rest)

/-- A part with blanks on either side. -/
def spacedPart : Reader String := fun cs => do
  let (name, rest) ← keyPart (skipBlanks cs)
  return (name, skipBlanks rest)

/-- A key whose parts are parted by points. -/
def key : Reader Key := fun cs => do
  let (parts, rest) ← separated '.' spacedPart cs
  let name ← parts.getLast?
  if parts.length < depthLimit then some (⟨parts.dropLast, name⟩, rest) else none

/-! ### Values without parts -/

/-- The characters of numbers, dates, times and truth values. -/
def isBare (c : Char) : Bool := c.isAlphanum || c = '_' || c = '-' || c = '+' || c = '.' || c = ':'

/-- A date may be parted by one space from a time, and then both are one value. -/
def bareRun (cs : List Char) : List Char × List Char :=
  match cs.span isBare with
  | (run, ' ' :: rest) =>
    match rest.span isBare with
    | (c :: more, last) => if Moment.isDate run then (run ++ ' ' :: c :: more, last)
                           else (run, ' ' :: rest)
    | ([], _) => (run, ' ' :: rest)
  | found => found

/-- No run of characters is a value of two kinds. -/
def ofBare? (run : List Char) : Option Value :=
  if run = "true".toList then some (.boolean true)
  else if run = "false".toList then some (.boolean false)
  else (integer? run).map .integer <|> (float? run).map .float <|>
    if Moment.isMoment run then some (.moment (String.ofList run)) else none

def scalarValue : Reader Value := fun cs =>
  (text cs).map (fun (s, rest) => (.string s, rest)) <|>
    let (run, rest) := bareRun cs
    (ofBare? run).map fun v => (v, rest)

/-! ### Values with parts -/

/-- The elements of an array and its closing bracket. A comma may follow the last one. -/
def arrayRest (value : Reader Value) : Reader Value := fun cs =>
  let element : Reader Value := fun cs => do
    let (v, rest) ← value (skipGaps cs)
    return (v, skipGaps rest)
  match separated ',' element cs with
  | none => (char ']' (skipGaps cs)).map fun rest => (.array [], rest)
  | some (items, rest) => do
    let rest := skipGaps ((char ',' rest).getD rest)
    return (.array items, ← char ']' rest)

/-- A key, the equals sign and the value. -/
def pair (value : Reader Value) : Reader (Key × Value) := fun cs => do
  let (k, rest) ← key cs
  let (v, rest) ← value (skipBlanks (← char '=' rest))
  return ((k, v), skipBlanks rest)

/-- Gathers pairs into entries, or refuses them if two of them meet. -/
def insertPairs (entries : Entries) (pairs : List (Key × Value)) : Option Entries :=
  pairs.foldlM (fun entries pair => entries.insertPair pair.1.parents pair.1.name pair.2) entries

/-- The pairs of an inline table and its closing brace. No comma follows the last one, and all
stand on one line. -/
def tableRest (value : Reader Value) : Reader Value := fun cs => do
  let (pairs, rest) := (separated ',' (pair value) cs).getD ([], skipBlanks cs)
  let entries ← insertPairs [] pairs
  return (.table (entryValues entries), ← char '}' rest)

/-- A value in which arrays and inline tables nest at most so deep. -/
def value : Nat → Reader Value
  | 0, cs => scalarValue cs
  | depth + 1, cs =>
    match cs with
    | '[' :: rest => arrayRest (value depth) rest
    | '\x7b' :: rest => tableRest (value depth) rest
    | cs => scalarValue cs

end BytePool.Toml
