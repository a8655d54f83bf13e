import BytePool.Block
import BytePool.Reply
import BytePool.Text.Record

/-!
# Slabs

One large allocation that is carved into chunks from the front. What has been carved is never
carved again.
-/
namespace BytePool

structure Slab where
  id : Nat
  /-- How many bytes have been carved off. -/
  cursor : Nat
  /-- The memory behind the cursor. -/
  tail : Blank
  deriving DecidableEq, Repr

/-- A part of the memory of a slab, with its place there. -/
structure Chunk extends Block where
  offset : Nat
  deriving DecidableEq, Repr

namespace Slab

/-- How many bytes are left. -/
def remaining (slab : Slab) : Nat := slab.tail.bytes.length

def capacity (slab : Slab) : Nat := slab.cursor + slab.remaining

/-- A whole slab of zero bytes. -/
def allocate (id capacity : Nat) : Except Failure Slab :=
  if maxAllocation < capacity then .error .capacityOverflow else .ok ⟨id, 0, .zeroed capacity⟩

/-- Carves off bytes that are there. -/
def carve (slab : Slab) (length : Nat) : Chunk × Slab :=
  let (front, rest) := slab.tail.splitTo length
  (⟨front, slab.cursor⟩, { slab with cursor := slab.cursor + length, tail := rest })

/-- Carves off bytes, or nothing if fewer are left. -/
def carve? (slab : Slab) (length : Nat) : Reply Slab (Option Chunk) :=
  if length ≤ slab.remaining then .done (some (slab.carve length).1) (slab.carve length).2
  else .done none slab

theorem carve?_of_le {slab : Slab} {length : Nat} (h : length ≤ slab.remaining) :
    slab.carve? length = .done (some (slab.carve length).1) (slab.carve length).2 :=
  if_pos h

/-- A slab without room gives no chunk and stays as it was. -/
theorem carve?_of_remaining_lt {slab : Slab} {length : Nat} (h : slab.remaining < length) :
    slab.carve? length = .done none slab :=
  if_neg (Nat.not_le.mpr h)

section Carve
variable (slab : Slab) (length : Nat)

@[simp] theorem remaining_mk (id cursor capacity : Nat) :
    remaining ⟨id, cursor, .zeroed capacity⟩ = capacity :=
  (Blank.zeroed capacity).filled

@[simp] theorem remaining_carve : (slab.carve length).2.remaining = slab.remaining - length :=
  List.length_drop

/-- Carved twice, a slab is left as by one carving of both lengths. -/
theorem carve_carve (first second : Nat) :
    ((slab.carve first).2.carve second).2 = (slab.carve (first + second)).2 := by
  simp only [carve, Blank.splitTo_splitTo, Nat.add_assoc]

theorem zero_carve : ∀ byte ∈ (slab.carve length).1.bytes, byte = 0 :=
  slab.tail.zero_splitTo length

/-- Carved where there are bytes, the chunk and what is left are full of them. -/
theorem carve_eq {slab : Slab} {length : Nat} (h : length ≤ slab.remaining) :
    slab.carve length =
      (⟨.zeroed length, slab.cursor⟩,
        ⟨slab.id, slab.cursor + length, .zeroed (slab.remaining - length)⟩) := by
  rw [carve, Blank.splitTo_eq_zeroed h, remaining, slab.tail.filled]

end Carve

def text (slab : Slab) : String :=
  Text.record "Slab"
    [("id", toString slab.id), ("capacity", toString slab.capacity),
      ("cursor", toString slab.cursor)]

end Slab
end BytePool
