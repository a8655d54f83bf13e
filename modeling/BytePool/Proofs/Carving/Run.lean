import BytePool.Proofs.Carving.Step

/-!
# Runs of an arena

The slices that an arena issues in a run are the layout of the requests it grants. Hence no two of
them share a byte, they fill each slab from its first byte on, and a slab that was left is never
used again.
-/
namespace BytePool

/-- The slice that was delivered, if one was. -/
def sliceOf : Except Failure Buffer → Option Slice
  | .ok b => b.origin.slice?
  | .error _ => none

namespace Arena

/-- What came of a run of requests. -/
structure Run where
  outcomes : List (Except Failure Buffer)
  state : Arena
  events : List Event

/-- Serves requests one after the other; one that fails ends only itself. -/
def run (arena : Arena) : List Nat → Run
  | [] => ⟨[], arena, []⟩
  | capacity :: capacities =>
    let reply := arena.allocate capacity
    let later := reply.state.run capacities
    ⟨reply.outcome :: later.outcomes, later.state, reply.events ++ later.events⟩

/-- The delivered slices in the sequence of their requests. -/
def Run.slices (run : Run) : List Slice := run.outcomes.filterMap sliceOf

/-- The requests that a slab of the given capacity could hold. -/
def granted (slabCapacity : Nat) (capacities : List Nat) : List Nat :=
  capacities.filter fun capacity => 0 < capacity ∧ capacity ≤ slabCapacity

/-- A request that a slab could hold gets a slice of its length, and all others are refused. -/
def Answered (order : ByteOrder) (slabCapacity capacity : Nat) : Except Failure Buffer → Prop
  | .ok b => (0 < capacity ∧ capacity ≤ slabCapacity) ∧
    ∃ s : Slice, b = s.blank order ∧ s.length = capacity
  | .error failure => ¬(0 < capacity ∧ capacity ≤ slabCapacity) ∧
    ∃ reason, failure = .refused (.invalidArgument "capacity" reason)

lemma granted_cons_of_pos {slabCapacity n : Nat} (h : 0 < n ∧ n ≤ slabCapacity)
    (capacities : List Nat) :
    granted slabCapacity (n :: capacities) = n :: granted slabCapacity capacities :=
  List.filter_cons_of_pos (by simpa using h)

lemma granted_cons_of_neg {slabCapacity n : Nat} (h : ¬(0 < n ∧ n ≤ slabCapacity))
    (capacities : List Nat) :
    granted slabCapacity (n :: capacities) = granted slabCapacity capacities :=
  List.filter_cons_of_neg (by simpa using h)

lemma mem_granted {slabCapacity n : Nat} {capacities : List Nat}
    (h : n ∈ granted slabCapacity capacities) : 0 < n ∧ n ≤ slabCapacity := by
  simpa [granted] using (List.mem_filter.mp h).2

/-- A request that no slab could hold leaves the arena as it is. -/
lemma allocate_of_not {arena : Arena} {capacity : Nat}
    (h : ¬(0 < capacity ∧ capacity ≤ arena.slabCapacity)) :
    (∃ reason, (arena.allocate capacity).outcome =
        .error (.refused (.invalidArgument "capacity" reason))) ∧
      (arena.allocate capacity).state = arena := by
  rw [allocate, if_pos (by omega)]
  exact ⟨⟨_, rfl⟩, rfl⟩

/-- What one request does: it takes the next slice of the layout, or it is refused. -/
lemma Sound.allocate {arena : Arena} (h : arena.Sound) (hmax : arena.slabCapacity ≤ maxAllocation)
    (capacity : Nat) :
    Answered arena.order arena.slabCapacity capacity (arena.allocate capacity).outcome ∧
      if 0 < capacity ∧ capacity ≤ arena.slabCapacity then
        sliceOf (arena.allocate capacity).outcome = some (arena.next capacity) ∧
          (arena.allocate capacity).state = arena.after (arena.next capacity)
      else
        sliceOf (arena.allocate capacity).outcome = none ∧
          (arena.allocate capacity).state = arena := by
  by_cases hc : 0 < capacity ∧ capacity ≤ arena.slabCapacity
  · obtain ⟨ho, hs⟩ := h.carve hc.1 hc.2 hmax
    rw [if_pos hc, allocate_of_le hc.1 hc.2, ho, hs]
    exact ⟨⟨hc, _, rfl, length_next⟩, by simp [sliceOf], rfl⟩
  · obtain ⟨⟨reason, ho⟩, hs⟩ := allocate_of_not hc
    rw [if_neg hc, ho, hs]
    exact ⟨⟨hc, reason, rfl⟩, rfl, rfl⟩

lemma Sound.state_allocate {arena : Arena} (h : arena.Sound)
    (hmax : arena.slabCapacity ≤ maxAllocation) (capacity : Nat) :
    (arena.allocate capacity).state.Sound := by
  have hstep := (h.allocate hmax capacity).2
  split at hstep
  case isTrue hc =>
    rw [hstep.2]
    exact .after hmax hc.2
  case isFalse =>
    rw [hstep.2]
    exact h

/-! ### Whole runs -/

section Run
variable {arena : Arena} (h : arena.Sound) (hmax : arena.slabCapacity ≤ maxAllocation)
  (capacities : List Nat)
include h hmax

lemma frame_allocate (capacity : Nat) :
    (arena.allocate capacity).state.order = arena.order ∧
      (arena.allocate capacity).state.slabCapacity = arena.slabCapacity := by
  have hstep := (h.allocate hmax capacity).2
  split at hstep <;> rw [hstep.2] <;> exact ⟨rfl, rfl⟩

lemma slices_run :
    (arena.run capacities).slices =
      layout arena.slabCapacity arena.mark (granted arena.slabCapacity capacities) := by
  induction capacities generalizing arena with
  | nil => rfl
  | cons capacity capacities ih =>
    have hrest := ih (h.state_allocate hmax capacity)
      (by rwa [(frame_allocate h hmax capacity).2])
    rw [(frame_allocate h hmax capacity).2] at hrest
    have hstep := (h.allocate hmax capacity).2
    have hcons : (arena.run (capacity :: capacities)).slices =
        (sliceOf (arena.allocate capacity).outcome).toList ++
          ((arena.allocate capacity).state.run capacities).slices := by
      simp only [Run.slices, run, List.filterMap_cons]
      cases sliceOf (arena.allocate capacity).outcome <;> rfl
    rw [hcons, hrest]
    split at hstep
    case isTrue hc =>
      rw [hstep.1, hstep.2, granted_cons_of_pos hc]
      rfl
    case isFalse hc =>
      rw [hstep.1, hstep.2, granted_cons_of_neg hc]
      rfl

/-- The arena after a run is the one that issued the slices of the run and did nothing else. -/
lemma state_run :
    (arena.run capacities).state = (arena.run capacities).slices.foldl after arena := by
  induction capacities generalizing arena with
  | nil => rfl
  | cons capacity capacities ih =>
    have hrest := ih (h.state_allocate hmax capacity)
      (by rwa [(frame_allocate h hmax capacity).2])
    have hstep := (h.allocate hmax capacity).2
    simp only [run, Run.slices, List.filterMap_cons] at hrest ⊢
    split at hstep
    case isTrue hc =>
      rw [hrest, hstep.1, hstep.2, List.foldl_cons]
    case isFalse hc =>
      rw [hrest, hstep.1, hstep.2]

/-- A run makes no more slabs and issues no more slices than it has requests. -/
lemma atMost_run {n : Nat} (hn : arena.AtMost n) :
    (arena.run capacities).state.AtMost (n + capacities.length) := by
  induction capacities generalizing arena n with
  | nil => exact hn
  | cons capacity capacities ih =>
    have hstep : (arena.allocate capacity).state.AtMost (n + 1) := by
      have hcase := (h.allocate hmax capacity).2
      split at hcase
      · rw [hcase.2]
        exact hn.after h
      · rw [hcase.2]
        exact hn.succ
    have hrest := ih (h.state_allocate hmax capacity)
      (by rwa [(frame_allocate h hmax capacity).2]) hstep
    rwa [List.length_cons, Nat.add_comm capacities.length, ← Nat.add_assoc]

lemma answered_run :
    List.Forall₂ (Answered arena.order arena.slabCapacity) capacities
      (arena.run capacities).outcomes := by
  induction capacities generalizing arena with
  | nil => exact .nil
  | cons capacity capacities ih =>
    have hrest := ih (h.state_allocate hmax capacity)
      (by rwa [(frame_allocate h hmax capacity).2])
    rw [(frame_allocate h hmax capacity).1, (frame_allocate h hmax capacity).2] at hrest
    exact .cons (h.allocate hmax capacity).1 hrest

end Run

/-! ### The arena that issued slices -/

/-- What an arena shows once it has issued slices and nothing else. -/
def Snapshot.of (order : ByteOrder) (slabCapacity : Nat) (slices : List Slice) : Snapshot where
  order
  slabCapacity
  currentSlab := slices.getLast?.map Slice.slab
  cursor := (slices.getLast?.map Slice.stop).getD 0
  slabsAllocated := (slices.getLast?.map Slice.slab).getD 0
  slicesIssued := slices.length
  bytesIssued := .ofNat (slices.map Slice.length).sum

/-- A new arena that has issued slices shows them. -/
lemma snapshot_foldl_after (order : ByteOrder) (slabCapacity : Nat) (slices : List Slice) :
    (slices.foldl after { order, slabCapacity }).snapshot = .of order slabCapacity slices := by
  induction slices using List.reverseRecOn with
  | nil => rfl
  | append_singleton slices s ih =>
    have horder := congrArg Snapshot.order ih
    have hcap := congrArg Snapshot.slabCapacity ih
    have hissued := congrArg Snapshot.slicesIssued ih
    have hbytes := congrArg Snapshot.bytesIssued ih
    simp only [snapshot, Snapshot.of] at horder hcap hissued hbytes
    simp [List.foldl_append, snapshot, Snapshot.of, after, horder, hcap, hissued, hbytes]

/-- The last slab of the layout is the number of slabs that were made. -/
lemma slabsAllocated_run (order : ByteOrder) {slabCapacity : Nat}
    (hmax : slabCapacity ≤ maxAllocation) (capacities : List Nat) :
    (({ order, slabCapacity } : Arena).run capacities).state.snapshot.slabsAllocated =
      (reach slabCapacity (.start slabCapacity) (granted slabCapacity capacities)).1 := by
  have hsound := sound_fresh order slabCapacity
  rw [state_run hsound hmax, snapshot_foldl_after, slices_run hsound hmax, Snapshot.of,
    Layout.reach_eq_getLast]
  simp only [mark]
  cases (layout slabCapacity _ (granted slabCapacity capacities)).getLast? <;> rfl

end Arena
end BytePool
