import BytePool.Proofs.Buffer.Shifted
import BytePool.Proofs.Pool.Copying

/-!
# Adopted regions

A region of writable memory becomes a buffer with its indices where they are, and of any other a
copy is made that starts at zero. Nobody who uses the buffer can tell which of the two it was but by
its indices, its room and its origin, unless nothing is left of the region.
-/
namespace BytePool

/-! ### Regions of one history -/

/-- New memory of some kind after some moves. -/
def Region.brought (order : ByteOrder) (bytes : List UInt8) (moves : List Move)
    (storage : Storage) : Region :=
  moveAll { storage, order, bytes } moves

/-- Where moves lead does not depend on the kind of memory. -/
lemma Region.exists_brought (order : ByteOrder) (bytes : List UInt8) (moves : List Move) :
    ∃ position ≤ bytes.length, ∃ mark, ∀ storage,
      brought order bytes moves storage = { storage, order, bytes, position, mark } := by
  suffices ∃ position mark, ∀ storage,
      brought order bytes moves storage = { storage, order, bytes, position, mark } by
    obtain ⟨position, mark, heq⟩ := this
    have hplaced := (placed_new .heap order bytes).moveAll moves
    rw [← brought, heq] at hplaced
    exact ⟨position, hplaced.position_le, mark, heq⟩
  induction moves using List.reverseRecOn with
  | nil => exact ⟨0, none, fun _ => rfl⟩
  | append_singleton moves m ih =>
    obtain ⟨position, mark, heq⟩ := ih
    simp only [brought, moveAll_append] at heq ⊢
    simp only [heq]
    cases m with
    | setPosition next =>
      by_cases hlt : bytes.length < next
      · exact ⟨position, mark, fun _ => by simp [move, setPosition, length, hlt, Reply.refuse]⟩
      · exact ⟨next, mark.filter (· ≤ next), fun _ => by
          simp [move, setPosition, length, hlt, Reply.done]⟩
    | setMark => exact ⟨position, some position, fun _ => rfl⟩
    | reset =>
      cases mark with
      | none => exact ⟨position, none, fun _ => rfl⟩
      | some last => exact ⟨last, some last, fun _ => rfl⟩

/-! ### Copies -/

section Filled
variable {order : ByteOrder} {bytes : List UInt8} {position size slabCapacity : Nat} {b : Buffer}
  (hb : b.Filled order (bytes.drop position) size slabCapacity)
include hb

/-- Wrapped memory is ahead of its copy by the position that it starts from. -/
lemma Buffer.Filled.shifted_wrapFrom (spare : Nat) :
    Shifted position (.wrapFrom order bytes spare position) b := by
  refine .of_reader hb.order_eq.symm hb.isReadOnly_eq.symm hb.readable_eq.symm ?_
  rw [hb.readerIndex_eq, Nat.zero_add]
  rfl

lemma Buffer.Filled.shifted {size' slabCapacity' : Nat} {c : Buffer}
    (hc : c.Filled order (bytes.drop position) size' slabCapacity') : Shifted 0 b c :=
  .of_reader (hb.order_eq.trans hc.order_eq.symm) (hb.isReadOnly_eq.trans hc.isReadOnly_eq.symm)
    (hb.readable_eq.trans hc.readable_eq.symm) (hb.readerIndex_eq.trans hc.readerIndex_eq.symm)

end Filled

namespace Pool

section Copy
variable {pool : Pool} {region : Region}
  (hcopy : (Request.adoptRegion region).handsOver = false)
include hcopy

lemma filled_adoptRegion (hpool : pool.Reachable) (hpos : 0 < region.remaining)
    (hfits : (pool.adoptRegion region).outcome ≠ .error .capacityOverflow) :
    ∃ b, (pool.adoptRegion region).outcome = .ok b ∧
      b.Filled region.order region.readable region.remaining pool.slabCapacity :=
  filled_serve hpool.sound (.adoptRegion region) rfl hcopy hpos region.length_readable hfits

lemma adoptRegion_of_exhausted (hr : region.remaining = 0) :
    (pool.adoptRegion region).outcome = .ok .empty := by
  have hserve := serve_eq_bind pool (.adoptRegion region) rfl hcopy
  rw [show (Request.adoptRegion region).size = 0 from hr, buffer_zero] at hserve
  rw [show pool.adoptRegion region = _ from hserve, empty, Reply.done_bind]
  simp [Request.finish, Request.finishRegion, hr, Reply.done]

end Copy

/-! ### All kinds of memory -/

/-- What becomes of regions of one history in the three kinds of memory. -/
structure Adopted (order : ByteOrder) (bytes : List UInt8) (position : Nat)
    (wrapped readOnly heap : Except Failure Buffer) : Prop where
  parallel : position < bytes.length → ∃ w r h,
    wrapped = .ok w ∧ readOnly = .ok r ∧ heap = .ok h ∧
    (∀ b ∈ [w, r, h],
      b.order = order ∧ b.readable = bytes.drop position ∧ b.isReadOnly = false) ∧
    w.Parallel position r ∧ w.Parallel position h ∧ r.Parallel 0 h
  exhausted : position = bytes.length →
    (∃ w, wrapped = .ok w ∧ w.order = order ∧ w.readable = [] ∧ w.isReadOnly = false) ∧
    readOnly = .ok .empty ∧ heap = .ok .empty

/-- Wrapped memory and its copies are the same to whoever uses them, up to the position that the
wrapped memory starts from. -/
theorem adoptRegion_parallel (order : ByteOrder) (bytes : List UInt8) (moves : List Region.Move)
    (spare : Nat) (direct : Pool) {readOnly heap : Pool} (hreadOnly : readOnly.Reachable)
    (hheap : heap.Reachable)
    (hfitsReadOnly : (readOnly.adoptRegion (.brought order bytes moves .readOnly)).outcome ≠
      .error .capacityOverflow)
    (hfitsHeap : (heap.adoptRegion (.brought order bytes moves .heap)).outcome ≠
      .error .capacityOverflow) :
    ∃ position ≤ bytes.length,
      (∀ storage, (Region.brought order bytes moves storage).position = position) ∧
      Adopted order bytes position
        (direct.adoptRegion (.brought order bytes moves (.direct spare))).outcome
        (readOnly.adoptRegion (.brought order bytes moves .readOnly)).outcome
        (heap.adoptRegion (.brought order bytes moves .heap)).outcome := by
  obtain ⟨position, hle, mark, heq⟩ := Region.exists_brought order bytes moves
  refine ⟨position, hle, fun storage => by rw [heq], ?_⟩
  rw [heq] at hfitsReadOnly hfitsHeap
  simp only [heq]
  constructor
  case parallel =>
    intro hlt
    have hpos (storage : Region.Storage) :
        0 < ({ storage, order, bytes, position, mark } : Region).remaining :=
      Nat.sub_pos_of_lt hlt
    obtain ⟨r, hr, hfilled⟩ := filled_adoptRegion rfl hreadOnly (hpos .readOnly) hfitsReadOnly
    obtain ⟨h, hh, hfilled'⟩ := filled_adoptRegion rfl hheap (hpos .heap) hfitsHeap
    refine ⟨_, r, h, rfl, hr, hh, ?_, (hfilled.shifted_wrapFrom spare).parallel,
      (hfilled'.shifted_wrapFrom spare).parallel, (hfilled.shifted hfilled').parallel⟩
    simp only [List.forall_mem_cons, List.not_mem_nil, false_imp_iff, implies_true, and_true]
    exact ⟨⟨rfl, rfl, rfl⟩, ⟨hfilled.order_eq, hfilled.readable_eq, hfilled.isReadOnly_eq⟩,
      hfilled'.order_eq, hfilled'.readable_eq, hfilled'.isReadOnly_eq⟩
  case exhausted =>
    intro hend
    have hzero (storage : Region.Storage) :
        ({ storage, order, bytes, position, mark } : Region).remaining = 0 :=
      Nat.sub_eq_zero_of_le hend.ge
    refine ⟨⟨_, rfl, rfl, ?_, rfl⟩, ?_, ?_⟩
    · exact List.drop_of_length_le hend.ge
    · exact adoptRegion_of_exhausted rfl (hzero _)
    · exact adoptRegion_of_exhausted rfl (hzero _)

/-- Wrapped memory that starts from its second byte refuses a number of four bytes as its copy does,
with the ends one further on, and with the same ends once both were emptied. -/
theorem adoptRegion_parallel_of_three :
    let moves : List Region.Move := [.setPosition 1, .setMark, .setPosition 3, .reset]
    let wrapped := (fresh .big 4).adoptRegion (.brought .little [1, 2, 3] moves (.direct 5))
    let heap := (fresh .big 2).adoptRegion (.brought .little [1, 2, 3] moves .heap)
    (fresh .big 4).Reachable ∧ (fresh .big 2).Reachable ∧ heap.outcome ≠ .error .capacityOverflow ∧
      ∃ w h, wrapped.outcome = .ok w ∧ heap.outcome = .ok h ∧ w.readable = [2, 3] ∧
        (w.performAll [.getNumber .u32, .clear, .getNumber .u32]).1 =
          List.zipWith Buffer.moveEnds [1, 1, 0]
            (h.performAll [.getNumber .u32, .clear, .getNumber .u32]).1 := by
  intro moves wrapped heap
  have hfour := reachable_fresh .big (show 0 < 4 by decide)
  have htwo := reachable_fresh .big (show 0 < 2 by decide)
  have hfits : heap.outcome ≠ .error .capacityOverflow := by decide
  obtain ⟨position, -, hposition, hadopted⟩ := adoptRegion_parallel .little [1, 2, 3] moves 5
    (fresh .big 4) hfour htwo (by decide) hfits
  obtain rfl : 1 = position := hposition .heap
  obtain ⟨w, r, h, hw, -, hh, hall, -, hparallel, -⟩ := hadopted.parallel (by decide)
  exact ⟨hfour, htwo, hfits, w, h, hw, hh, (hall w (by simp)).2.1, hparallel.answers _⟩

end Pool
end BytePool
