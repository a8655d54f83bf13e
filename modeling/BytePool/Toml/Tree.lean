import BytePool.Decimal.Binary64

/-!
# Values and the tables they are gathered in

While a document is read, a table remembers how it came about, since that decides what may still be
added to it. Entries keep the sequence in which their keys first appeared.
-/
namespace BytePool.Toml

inductive Value where
  | string (text : String)
  | integer (number : Int)
  | float (number : Decimal.Binary64)
  | boolean (truth : Bool)
  | moment (text : String)
  | array (items : List Value)
  | table (entries : List (String × Value))

/-- How a table came about: by a header of its own, as a part of a longer header, or as a part of a
dotted key. -/
inductive Origin where
  | header
  | implied
  | dotted
  deriving DecidableEq, Repr

inductive Node where
  | leaf (value : Value)
  | table (origin : Origin) (entries : List (String × Node))
  /-- Tables under repeated headers. -/
  | tables (elements : List (List (String × Node)))

abbrev Entries := List (String × Node)

mutual

def Node.value : Node → Value
  | .leaf value => value
  | .table _ entries => .table (entryValues entries)
  | .tables elements => .array (elementValues elements)

def entryValues : List (String × Node) → List (String × Value)
  | [] => []
  | (key, node) :: entries => (key, node.value) :: entryValues entries

def elementValues : List (List (String × Node)) → List Value
  | [] => []
  | entries :: elements => .table (entryValues entries) :: elementValues elements

end

theorem entryValues_eq_map (entries : Entries) :
    entryValues entries = entries.map fun entry => (entry.1, entry.2.value) := by
  induction entries with
  | nil => rfl
  | cons entry entries ih => simp [entryValues, ih]

namespace Entries

def find? (entries : Entries) (key : String) : Option Node := entries.lookup key

/-- Puts another node in the place of the one under a key. -/
def replace (entries : Entries) (key : String) (node : Node) : Entries :=
  entries.map fun entry => if entry.1 = key then (key, node) else entry

def append (entries : Entries) (key : String) (node : Node) : Entries := entries ++ [(key, node)]

def erase (entries : Entries) (key : String) : Entries :=
  entries.filter fun entry => entry.1 ≠ key

theorem map_fst_replace (entries : Entries) (key : String) (node : Node) :
    (entries.replace key node).map (·.1) = entries.map (·.1) := by
  simp only [replace, List.map_map]
  apply List.map_congr_left
  intro entry _
  by_cases h : entry.1 = key <;> simp [h]

theorem map_fst_append (entries : Entries) (key : String) (node : Node) :
    (entries.append key node).map (·.1) = entries.map (·.1) ++ [key] := by
  simp [append]

/-- Changes the table at the end of a path. A table that is missing on the way is made and
remembers `made`; of tables under repeated headers the last one is meant. A dotted key passes no
table that has a header of its own. `origin` is how the table itself came about. -/
def editAt (made : Origin) (edit : Origin → Entries → Option Entries) :
    List String → Origin → Entries → Option Entries
  | [], origin, entries => edit origin entries
  | key :: path, _, entries =>
    match entries.find? key with
    | none =>
      (editAt made edit path made []).map fun inner => entries.append key (.table made inner)
    | some (.leaf _) => none
    | some (.table origin inner) =>
      if made = .dotted ∧ origin = .header then none
      else (editAt made edit path origin inner).map fun inner =>
        entries.replace key (.table origin inner)
    | some (.tables elements) =>
      match elements.getLast? with
      | none => none
      | some last => (editAt made edit path .header last).map fun last =>
          entries.replace key (.tables (elements.dropLast ++ [last]))

/-- Adds a key that is not there yet. -/
def insertNew (entries : Entries) (key : String) (value : Value) : Option Entries :=
  match entries.find? key with
  | none => some (entries.append key (.leaf value))
  | some _ => none

/-- Adds a value under a dotted key. Tables made by dotted keys take values only from dotted keys,
and dotted keys put values only into tables that they made. -/
def insertPair (entries : Entries) (parents : List String) (key : String) (value : Value) :
    Option Entries :=
  editAt .dotted (fun origin inner =>
    if parents ≠ [] ∧ origin ≠ .dotted then none else inner.insertNew key value)
    parents .header entries

end Entries
end BytePool.Toml
