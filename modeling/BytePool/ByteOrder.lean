import BytePool.Reply.Error
import BytePool.Text.Blank

/-!
# Byte orders

The order in which the bytes of a number are stored, its names and its compact tag.
-/
namespace BytePool

inductive ByteOrder where
  | big
  | little
  deriving DecidableEq, Repr, Inhabited

namespace ByteOrder

def all : List ByteOrder := [big, little]

theorem mem_all (o : ByteOrder) : o ∈ all := by cases o <;> decide

/-- The order of the machine that the pool is made for. -/
def native : ByteOrder := little

def isBig : ByteOrder → Bool
  | big => true
  | little => false

/-- The place of an order in `all`. -/
def index : ByteOrder → Nat
  | big => 0
  | little => 1

/-- The number that stands for an order in stored metadata. -/
def tag (o : ByteOrder) : Nat := o.index

/-- Refuses every number that no order has: only a caller's defect can produce it. -/
def ofTag (tag : Nat) : Except Error ByteOrder :=
  match tag with
  | 0 => .ok big
  | 1 => .ok little
  | other => .error (.defectState
      ("byte order tag " ++ toString other ++
        " is neither big-endian (0) nor little-endian (1)"))

theorem ofTag_tag (o : ByteOrder) : ofTag o.tag = .ok o := by cases o <;> rfl

/-- The name in messages and events. -/
def name : ByteOrder → String
  | big => "big-endian"
  | little => "little-endian"

/-- The name in the texts of larger values. -/
def label : ByteOrder → String
  | big => "BigEndian"
  | little => "LittleEndian"

/-- The spellings that a configuration may use, in lower case. -/
def spellings : ByteOrder → List String
  | big => ["big", "big-endian", "big_endian", "bigendian", "be", "network"]
  | little => ["little", "little-endian", "little_endian", "littleendian", "le"]

def unset : Error := .invalidArgument "order" "byte order is unset"

def unknown (raw : String) : Error :=
  .invalidArgument "order" ("unknown byte order `" ++ raw ++ "`")

/-- The part of a text that decides: no white space at its ends, ASCII letters in lower case. -/
def folded (raw : String) : List Char := (Text.trim raw.toList).map Char.toLower

/-- Reads a spelling in any ASCII case with any white space around it. -/
def parse (raw : String) : Except Error ByteOrder :=
  let word := folded raw
  if word.isEmpty then .error unset
  else match all.find? fun o => o.spellings.any fun s => s.toList == word with
    | some o => .ok o
    | none => .error (unknown raw)

end ByteOrder
end BytePool
