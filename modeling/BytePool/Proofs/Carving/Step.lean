import BytePool.Carving.Arena
import BytePool.Proofs.Carving.Layout

/-!
# Steps of an arena

What one request does to an arena: it gets the place behind all that was carved before, or no memory
can hold a slab of the arena's capacity.
-/
namespace BytePool

namespace Origin

def slice? (o : Origin) : Option Slice :=
  o.slabRange?.map fun (id, offset, length) => ⟨id, offset, length⟩

@[simp] lemma slice?_slab (id offset length : Nat) :
    (slab id offset length).slice? = some ⟨id, offset, length⟩ := rfl

@[simp] lemma slice?_dedicated : dedicated.slice? = none := rfl

@[simp] lemma slice?_sharedEmpty : sharedEmpty.slice? = none := rfl

@[simp] lemma slice?_wrapped : wrapped.slice? = none := rfl

end Origin

namespace Slice

/-- A buffer on a slice that was never written, all of it readable. -/
def blank (order : ByteOrder) (s : Slice) : Buffer :=
  .ofSlice order s.slab s.offset (.zeroed s.length)

@[simp] lemma order_blank (order : ByteOrder) (s : Slice) : (s.blank order).order = order := rfl

lemma origin_blank (order : ByteOrder) (s : Slice) :
    (s.blank order).origin = .slab s.slab s.offset s.length := rfl

@[simp] lemma slice?_origin_blank (order : ByteOrder) (s : Slice) :
    (s.blank order).origin.slice? = some s := rfl

@[simp] lemma readable_blank (order : ByteOrder) (s : Slice) :
    (s.blank order).readable = List.replicate s.length 0 := rfl

@[simp] lemma capacity_blank (order : ByteOrder) (s : Slice) :
    (s.blank order).capacity = some s.length := rfl

@[simp] lemma writerIndex_blank (order : ByteOrder) (s : Slice) :
    (s.blank order).writerIndex = s.length := by
  rw [Buffer.writerIndex, readable_blank, List.length_replicate]
  exact Nat.zero_add _

end Slice

namespace Arena
variable {arena : Arena} {length : Nat}

/-- The slabs of an arena are numbered one after the other and all of one capacity. -/
structure Sound (arena : Arena) : Prop where
  id_eq : ∀ slab, arena.current = some slab → slab.id = arena.slabsAllocated
  capacity_eq : ∀ slab, arena.current = some slab → slab.capacity = arena.slabCapacity
  capacity_le : arena.current.isSome → arena.slabCapacity ≤ maxAllocation
  unused : arena.current = none → arena.slabCapacity ≤ maxAllocation → arena.slabsAllocated = 0

/-- The mark behind all that an arena has carved. -/
def mark (arena : Arena) : Mark :=
  match arena.current with
  | none => .start arena.slabCapacity
  | some slab => (slab.id, slab.cursor)

/-- The slice that the next request gets. -/
def next (arena : Arena) (length : Nat) : Slice := place arena.slabCapacity arena.mark length

/-- The arena once it has issued a slice behind its mark. -/
def after (arena : Arena) (s : Slice) : Arena :=
  { arena with
    current := some ⟨s.slab, s.stop, .zeroed (arena.slabCapacity - s.stop)⟩
    slabsAllocated := s.slab
    slicesIssued := arena.slicesIssued + 1
    bytesIssued := arena.bytesIssued + UInt64.ofNat s.length }

@[simp] lemma mark_after (s : Slice) : (arena.after s).mark = s.mark := rfl

@[simp] lemma length_next : (arena.next length).length = length := length_place _ _ _

lemma next_behind : (arena.next length).Behind arena.mark := place_behind _ _ _

lemma stop_next_le (h : length ≤ arena.slabCapacity) :
    (arena.next length).stop ≤ arena.slabCapacity := stop_place_le _ _ h

/-! ### The three ways of a request -/

lemma carve_of_fitting {slab : Slab} (h : arena.fitting length = some slab) :
    arena.carve length = arena.issue slab length := by
  rw [carve, h]

lemma carve_of_install (h : arena.fitting length = none)
    (hmax : arena.slabCapacity ≤ maxAllocation) :
    arena.carve length =
      (({ arena with
          slabsAllocated := arena.slabsAllocated + 1
          current := some ⟨arena.slabsAllocated + 1, 0, .zeroed arena.slabCapacity⟩ } : Arena).issue
        ⟨arena.slabsAllocated + 1, 0, .zeroed arena.slabCapacity⟩ length).emit
      (arena.installEvent ⟨arena.slabsAllocated + 1, 0, .zeroed arena.slabCapacity⟩ length) := by
  rw [carve, h]
  simp [install, Slab.allocate, Nat.not_lt.mpr hmax]

lemma carve_of_overflow (h : arena.fitting length = none)
    (hmax : maxAllocation < arena.slabCapacity) :
    arena.carve length = .overflow { arena with slabsAllocated := arena.slabsAllocated + 1 } := by
  rw [carve, h]
  simp [install, Slab.allocate, hmax, Reply.bind, Reply.overflow]

/-- From a slab with room for it, a slice is carved that was never written. -/
lemma issue_of_le (arena : Arena) {slab : Slab} (h : length ≤ slab.remaining) :
    arena.issue slab length =
      (Reply.done (Slice.blank arena.order ⟨slab.id, slab.cursor, length⟩)
        { arena with
          current := some ⟨slab.id, slab.cursor + length, .zeroed (slab.remaining - length)⟩
          slicesIssued := arena.slicesIssued + 1
          bytesIssued := arena.bytesIssued + UInt64.ofNat length }).emit
        (.sliceCarved arena.order slab.id slab.cursor length) := by
  rw [issue, Slab.carve_eq h]
  rfl

/-- What is carved has room for as many bytes as were asked for, and is a slice that was never
written if a slab can hold it, or no memory can hold a slab. -/
lemma carve_outcome (arena : Arena) (length : Nat) :
    (∃ (s : Slice) (b : Buffer), (arena.carve length).outcome = .ok b ∧ s.length = length ∧
        b.clear = (s.blank arena.order).clear ∧
        (length ≤ arena.slabCapacity → b = s.blank arena.order)) ∨
      maxAllocation < arena.slabCapacity ∧
        (arena.carve length).outcome = .error .capacityOverflow := by
  cases hf : arena.fitting length with
  | some slab =>
    have hroom := of_decide_eq_true (Option.filter_eq_some_iff.mp hf).2
    rw [carve_of_fitting hf, issue_of_le _ hroom]
    exact .inl ⟨_, _, rfl, rfl, rfl, fun _ => rfl⟩
  | none =>
    by_cases hmax : arena.slabCapacity ≤ maxAllocation
    · rw [carve_of_install hf hmax]
      refine .inl ⟨⟨arena.slabsAllocated + 1, 0, length⟩, _, rfl, rfl, rfl, fun hle => ?_⟩
      have hroom : length ≤
          Slab.remaining ⟨arena.slabsAllocated + 1, 0, .zeroed arena.slabCapacity⟩ := by
        simpa using hle
      exact Except.ok.inj (congrArg Reply.outcome (arena.issue_of_le hroom))
    · rw [carve_of_overflow hf (Nat.lt_of_not_le hmax)]
      exact .inr ⟨Nat.lt_of_not_le hmax, rfl⟩

/-! ### A request that fits a slab -/

namespace Sound

/-- A request is issued its slice of the layout, and nothing else changes. -/
lemma carve (h : arena.Sound) (hpos : 0 < length) (hle : length ≤ arena.slabCapacity)
    (hmax : arena.slabCapacity ≤ maxAllocation) :
    (arena.carve length).outcome = .ok ((arena.next length).blank arena.order) ∧
      (arena.carve length).state = arena.after (arena.next length) := by
  cases hc : arena.current with
  | none =>
    have hf : arena.fitting length = none := by simp [fitting, hc]
    have hid := h.unused hc hmax
    have hn : arena.next length = ⟨1, 0, length⟩ := by
      rw [next, mark, hc]
      exact place_start _ hpos
    rw [carve_of_install hf hmax, hn, issue_of_le _ (by simpa using hle)]
    simp [Reply.emit, Reply.done, after, Slice.stop, hid]
  | some slab =>
    have hid := h.id_eq slab hc
    have hcap : slab.cursor + slab.remaining = arena.slabCapacity := h.capacity_eq slab hc
    by_cases hroom : length ≤ slab.remaining
    · have hf : arena.fitting length = some slab := by simp [fitting, hc, hroom]
      have hn : arena.next length = ⟨slab.id, slab.cursor, length⟩ := by
        rw [next, mark, hc]
        exact place_of_le _ _ (by simp only; omega)
      have hrest : slab.remaining - length = arena.slabCapacity - (slab.cursor + length) := by omega
      rw [carve_of_fitting hf, hn, issue_of_le _ hroom]
      simp [Reply.emit, Reply.done, after, Slice.stop, hid, hrest]
    · have hf : arena.fitting length = none := by
        simpa [fitting, hc] using Nat.lt_of_not_le hroom
      have hn : arena.next length = ⟨arena.slabsAllocated + 1, 0, length⟩ := by
        rw [next, mark, hc, ← hid]
        exact place_of_lt _ _ (by simp only; omega)
      rw [carve_of_install hf hmax, hn, issue_of_le _ (by simpa using hle)]
      simp [Reply.emit, Reply.done, after, Slice.stop]

/-- No arena has a slab of more bytes than one allocation can have. -/
lemma carve_overflow (h : arena.Sound) (hmax : maxAllocation < arena.slabCapacity) :
    arena.carve length = .overflow { arena with slabsAllocated := arena.slabsAllocated + 1 } := by
  have hc : arena.current = none := by
    cases hc : arena.current with
    | none => rfl
    | some slab =>
      have := h.capacity_le (by simp [hc])
      omega
  exact carve_of_overflow (by simp [fitting, hc]) hmax

lemma after (hmax : arena.slabCapacity ≤ maxAllocation) (hle : length ≤ arena.slabCapacity) :
    (arena.after (arena.next length)).Sound where
  id_eq := by
    rintro _ ⟨⟩
    rfl
  capacity_eq := by
    rintro _ ⟨⟩
    rw [Slab.capacity, Slab.remaining_mk]
    exact Nat.add_sub_of_le (stop_next_le hle)
  capacity_le _ := hmax
  unused hc := by cases hc

end Sound

lemma sound_fresh (order : ByteOrder) (slabCapacity : Nat) :
    ({ order, slabCapacity } : Arena).Sound where
  id_eq := by simp
  capacity_eq := by simp
  capacity_le := by simp
  unused _ _ := rfl

lemma eq_of_new {order : ByteOrder} {slabCapacity : Nat} {arena : Arena}
    (h : Arena.new order slabCapacity = .ok arena) : arena = { order, slabCapacity } := by
  unfold Arena.new at h
  split at h <;> cases h
  rfl

lemma pos_of_new {order : ByteOrder} {slabCapacity : Nat} {arena : Arena}
    (h : Arena.new order slabCapacity = .ok arena) : 0 < slabCapacity := by
  unfold Arena.new at h
  split at h
  · cases h
  · exact Nat.pos_of_ne_zero ‹_›

/-- Soundness is kept by every request of an arena's contract. -/
lemma Sound.state_carve (h : arena.Sound) (hpos : 0 < length) (hle : length ≤ arena.slabCapacity) :
    (arena.carve length).state.Sound := by
  by_cases hmax : arena.slabCapacity ≤ maxAllocation
  · rw [(h.carve hpos hle hmax).2]
    exact .after hmax hle
  · rw [h.carve_overflow (Nat.lt_of_not_le hmax)]
    exact ⟨fun slab hc => absurd (h.capacity_le (by simp_all [Reply.overflow])) hmax,
      h.capacity_eq, h.capacity_le, fun _ hle' => absurd hle' hmax⟩

/-! ### Numbers -/

/-- An arena has made no more than `n` slabs and issued no more than `n` slices. -/
structure AtMost (arena : Arena) (n : Nat) : Prop where
  slabs : arena.slabsAllocated ≤ n
  slices : arena.slicesIssued ≤ n

namespace AtMost
variable {n : Nat}

lemma fresh (order : ByteOrder) (slabCapacity : Nat) :
    ({ order, slabCapacity } : Arena).AtMost 0 := ⟨le_rfl, le_rfl⟩

lemma succ (h : arena.AtMost n) : arena.AtMost (n + 1) :=
  ⟨Nat.le_succ_of_le h.slabs, Nat.le_succ_of_le h.slices⟩

/-- A slice that is issued is one more, and so is the slab it may need. -/
lemma after (h : arena.AtMost n) (hsound : arena.Sound) :
    (arena.after (arena.next length)).AtMost (n + 1) where
  slabs := by
    have hmark : arena.mark.1 ≤ arena.slabsAllocated := by
      unfold mark
      cases hc : arena.current with
      | none => exact Nat.zero_le _
      | some slab => exact (hsound.id_eq slab hc).le
    exact (slab_place_le _ arena.mark length).trans (Nat.succ_le_succ (hmark.trans h.slabs))
  slices := Nat.succ_le_succ h.slices

/-- A slab is counted even if no memory can hold it. -/
lemma counted (h : arena.AtMost n) :
    ({ arena with slabsAllocated := arena.slabsAllocated + 1 } : Arena).AtMost (n + 1) :=
  ⟨Nat.succ_le_succ h.slabs, Nat.le_succ_of_le h.slices⟩

end AtMost

/-! ### Frame -/

/-- An arena keeps its order and the capacity of its slabs, whatever comes of a request. -/
lemma carve_frame (arena : Arena) (length : Nat) :
    (arena.carve length).state.order = arena.order ∧
      (arena.carve length).state.slabCapacity = arena.slabCapacity := by
  cases hf : arena.fitting length with
  | some slab =>
    rw [carve_of_fitting hf]
    exact ⟨rfl, rfl⟩
  | none =>
    by_cases hmax : arena.slabCapacity ≤ maxAllocation
    · rw [carve_of_install hf hmax]
      exact ⟨rfl, rfl⟩
    · rw [carve_of_overflow hf (Nat.lt_of_not_le hmax)]
      exact ⟨rfl, rfl⟩

@[simp] lemma order_carve : (arena.carve length).state.order = arena.order :=
  (carve_frame arena length).1

@[simp] lemma slabCapacity_carve : (arena.carve length).state.slabCapacity = arena.slabCapacity :=
  (carve_frame arena length).2

lemma allocate_of_le (hpos : 0 < length) (hle : length ≤ arena.slabCapacity) :
    arena.allocate length = arena.carve length := by
  rw [allocate, if_neg (by omega)]

/-- What an arena delivers on request is a slice of that length, and it was never written. -/
lemma exists_of_allocate {b : Buffer} (h : (arena.allocate length).outcome = .ok b) :
    ∃ s : Slice, b = s.blank arena.order ∧ s.length = length ∧ length ≤ arena.slabCapacity := by
  by_cases hin : 0 < length ∧ length ≤ arena.slabCapacity
  · rw [allocate_of_le hin.1 hin.2] at h
    obtain ⟨s, b', ho, hlength, -, hblank⟩ | ⟨-, ho⟩ := arena.carve_outcome length
    · exact ⟨s, (Except.ok.inj (h.symm.trans ho)).trans (hblank hin.2), hlength, hin.2⟩
    · cases h.symm.trans ho
  · rw [allocate, if_pos (by omega)] at h
    cases h

end Arena
end BytePool
