/-!
# Blocks of memory

Memory that is made has room for exactly as many bytes as were asked for. A block is cut in two
without a copy: each part keeps the memory that its bytes lie in.
-/
namespace BytePool

/-- Bytes and how many of them their memory has room for. -/
structure Block where
  bytes : List UInt8
  capacity : Nat
  deriving DecidableEq, Repr

namespace Block

/-- Memory full of zero bytes. -/
def zeroed (capacity : Nat) : Block := ⟨List.replicate capacity 0, capacity⟩

/-- Cuts off the first bytes with the memory that they fill. -/
def splitTo (block : Block) (length : Nat) : Block × Block :=
  (⟨block.bytes.take length, length⟩, ⟨block.bytes.drop length, block.capacity - length⟩)

theorem length_splitTo {block : Block} {length : Nat} (h : length ≤ block.bytes.length) :
    (block.splitTo length).1.bytes.length = length :=
  List.length_take_of_le h

end Block

/-- Memory that nobody has written to, all of it zero bytes. -/
structure Blank extends Block where
  filled : bytes.length = capacity
  zero : ∀ byte ∈ bytes, byte = 0
  deriving DecidableEq, Repr

namespace Blank

def zeroed (capacity : Nat) : Blank where
  toBlock := .zeroed capacity
  filled := List.length_replicate
  zero _ := List.eq_of_mem_replicate

/-- Cuts off the first bytes. What is left has still not been written to. -/
def splitTo (blank : Blank) (length : Nat) : Block × Blank :=
  ((blank.toBlock.splitTo length).1,
    { toBlock := (blank.toBlock.splitTo length).2
      filled := by simp [Block.splitTo, blank.filled]
      zero := fun byte h => blank.zero byte (List.mem_of_mem_drop h) })

/-- Cut twice, what is left is what one cut of both lengths leaves. -/
theorem splitTo_splitTo (blank : Blank) (first second : Nat) :
    ((blank.splitTo first).2.splitTo second).2 = (blank.splitTo (first + second)).2 := by
  simp [splitTo, Block.splitTo, Nat.sub_sub]

theorem toBlock_eq_zeroed (blank : Blank) : blank.toBlock = .zeroed blank.capacity := by
  obtain ⟨⟨bytes, capacity⟩, filled, zero⟩ := blank
  rw [Block.zeroed, Block.mk.injEq, and_iff_left rfl]
  exact List.eq_replicate_iff.mpr ⟨filled, zero⟩

/-- Memory that nobody has written to is told apart by its size alone. -/
theorem eq_zeroed (blank : Blank) : blank = zeroed blank.capacity := by
  obtain ⟨block, filled, zero⟩ := blank
  have h := toBlock_eq_zeroed ⟨block, filled, zero⟩
  simp only at h
  congr

theorem zero_splitTo (blank : Blank) (length : Nat) :
    ∀ byte ∈ (blank.splitTo length).1.bytes, byte = 0 :=
  fun byte h => blank.zero byte (List.mem_of_mem_take h)

/-- Cut where there are bytes, both parts are full of them. -/
theorem splitTo_eq_zeroed {blank : Blank} {length : Nat} (h : length ≤ blank.bytes.length) :
    blank.splitTo length = (.zeroed length, zeroed (blank.capacity - length)) := by
  have hfront : (blank.splitTo length).1.bytes = List.replicate length 0 :=
    List.eq_replicate_iff.mpr ⟨Block.length_splitTo h, blank.zero_splitTo length⟩
  refine Prod.ext ?_ (eq_zeroed _)
  rw [Block.zeroed, ← hfront]
  rfl

end Blank
end BytePool
