import BytePool.Toml.Value

/-!
# Documents

Documents are those of TOML 1.0, with integers of 64 signed bits. A document is a list of lines. The
pairs before the first header belong to the document itself, and those after a header to the table
that it opens.
-/
namespace BytePool.Toml

inductive Line where
  | empty
  | pair (key : Key) (value : Value)
  /-- A table that comes once. -/
  | table (key : Key)
  /-- One of several tables of one name. -/
  | element (key : Key)

namespace Line

/-- A header between its brackets. -/
def header (close : List Char → Option (List Char)) : Reader Key := fun cs => do
  let (k, rest) ← key cs
  return (k, ← lineEnd (← close rest))

def closeTwice (cs : List Char) : Option (List Char) := do char ']' (← char ']' cs)

def pairLine : Reader Line := fun cs => do
  let ((k, v), rest) ← Toml.pair (value (depthLimit - 1)) cs
  return (.pair k v, ← lineEnd rest)

def read : Reader Line
  | [] => none
  | c :: cs =>
    match skipBlanks (c :: cs) with
    | '[' :: '[' :: rest => (header closeTwice rest).map fun (k, rest) => (.element k, rest)
    | '[' :: rest => (header (char ']') rest).map fun (k, rest) => (.table k, rest)
    | rest => (lineEnd rest).map (.empty, ·) <|> pairLine rest

end Line

/-- A table that a header opens, with its pairs. -/
structure Section where
  key : Key
  repeated : Bool
  pairs : List (Key × Value)

/-- The pairs of the document itself and the sections after them. -/
def sections : List Line → List (Key × Value) × List Section
  | [] => ([], [])
  | .empty :: lines => sections lines
  | .pair k v :: lines => ((k, v) :: (sections lines).1, (sections lines).2)
  | .table k :: lines => ([], ⟨k, false, (sections lines).1⟩ :: (sections lines).2)
  | .element k :: lines => ([], ⟨k, true, (sections lines).1⟩ :: (sections lines).2)

/-- Opens the table of a section in the table that holds it. Only a table that nothing but longer
headers has named may get its header later, and it then takes the place of that header. -/
def openSection (sec : Section) (entries : Entries) : Option Entries :=
  match sec.repeated, entries.find? sec.key.name with
  | false, none => do
    let inner ← insertPairs [] sec.pairs
    return entries.append sec.key.name (.table .header inner)
  | false, some (.table .implied inner) => do
    let inner ← insertPairs inner sec.pairs
    return (entries.erase sec.key.name).append sec.key.name (.table .header inner)
  | true, none => do
    let inner ← insertPairs [] sec.pairs
    return entries.append sec.key.name (.tables [inner])
  | true, some (.tables elements) => do
    let inner ← insertPairs [] sec.pairs
    return entries.replace sec.key.name (.tables (elements ++ [inner]))
  | _, _ => none

def addSection (entries : Entries) (sec : Section) : Option Entries :=
  entries.editAt .implied (fun _ => openSection sec) sec.key.parents .header

def ofLines (lines : List Line) : Option Entries := do
  let (pairs, rest) := sections lines
  rest.foldlM addSection (← insertPairs [] pairs)

/-- A byte order mark may start the text. -/
def skipMark : List Char → List Char
  | '\ufeff' :: cs => cs
  | cs => cs

/-- The top-level table of a document, its keys distinct and in the sequence of the text. -/
def parse (text : String) : Option (List (String × Value)) :=
  match many Line.read (skipMark text.toList) with
  | (lines, []) => (ofLines lines).map entryValues
  | _ => none

end BytePool.Toml
