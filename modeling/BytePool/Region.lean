import BytePool.Buffer.Queue
import BytePool.Text.Bytes

/-!
# Regions

Memory that a caller brings along, with a read position and a mark to come back to. Only writable
memory outside the heap can become a buffer as it is; all other is copied.
-/
namespace BytePool

inductive Region.Storage where
  /-- Writable memory outside the heap, with room for some bytes behind those that are there. -/
  | direct (spare : Nat)
  | readOnly
  | heap
  deriving DecidableEq, Repr

structure Region where
  storage : Region.Storage
  order : ByteOrder
  bytes : List UInt8
  position : Nat := 0
  mark : Option Nat := none
  deriving DecidableEq, Repr

namespace Region

def isDirect (region : Region) : Bool := region.storage ≠ .heap

def isReadOnly (region : Region) : Bool := region.storage = .readOnly

def length (region : Region) : Nat := region.bytes.length

def isEmpty (region : Region) : Bool := region.bytes.isEmpty

/-- The bytes from the position on. -/
def readable (region : Region) : List UInt8 := region.bytes.drop region.position

def remaining (region : Region) : Nat := region.length - region.position

theorem length_readable (region : Region) : region.readable.length = region.remaining := by
  simp [readable, remaining, length]

/-- Moves the position. A mark behind the new position is forgotten. -/
def setPosition (region : Region) (position : Nat) : Reply Region Unit :=
  if region.length < position then
    .refuse (.indexOutOfRange "position" position region.length) region
  else
    .done () { region with position, mark := region.mark.filter (· ≤ position) }

/-- Marks the position. -/
def setMark (region : Region) : Region := { region with mark := some region.position }

/-- Goes back to the mark and keeps it. -/
def reset (region : Region) : Reply Region Unit :=
  match region.mark with
  | some mark => .done () { region with position := mark }
  | none =>
    .refuse (.invalidArgument "mark" "reset called on a region without mark") region

/-- Consumes readable bytes. -/
def advance (region : Region) (length : Nat) : Reply Region Unit :=
  if region.remaining < length then
    .refuse (.indexOutOfRange "length" (region.position + length) region.length) region
  else .done () { region with position := region.position + length }

/-- Goes back to a position noted before. -/
def restore (region : Region) (position : Nat) : Region :=
  { region with position := min position region.length }

/-- To go back to the position from anywhere gives the region back. -/
theorem restore_of_position_le {region : Region} (h : region.position ≤ region.length)
    (position : Nat) : restore { region with position } region.position = region := by
  obtain ⟨storage, order, bytes, _, mark⟩ := region
  simp only [restore, mk.injEq, true_and, and_true]
  exact Nat.min_eq_left h

/-- Puts all readable bytes into a buffer and consumes them. -/
def drainInto (region : Region) (b : Buffer) : Reply (Buffer × Region) Unit :=
  ((b.putSlice region.readable).within (·, region)).bind fun state _ =>
    (state.2.advance region.remaining).within (state.1, ·)

def storageText (region : Region) : String :=
  match region.storage with
  | .direct _ => "Direct(" ++ Text.byteString region.bytes ++ ")"
  | .readOnly => "ReadOnly(" ++ Text.byteString region.bytes ++ ")"
  | .heap => "Heap(" ++ Text.listing (region.bytes.map fun byte => toString byte.toNat) ++ ")"

def text (region : Region) : String :=
  Text.record "NativeRegion"
    [("storage", region.storageText), ("order", region.order.label),
      ("position", toString region.position),
      ("mark", Text.optional (region.mark.map toString))]

end Region
end BytePool
