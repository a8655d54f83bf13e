import BytePool.Proofs.Carving.Run

/-!
# Packing

How the slices of an arena lie in its slabs after any run of requests, and what the arena shows of
it.
-/
namespace BytePool

namespace Slice

/-- A slice starts where the one before it ended exactly if it fits there, and else at the start of
the next slab. -/
def Follows (capacity : Nat) (s t : Slice) : Prop :=
  (t.slab = s.slab ∧ t.offset = s.stop ↔ s.stop + t.length ≤ capacity) ∧
    (capacity < s.stop + t.length → t.slab = s.slab + 1 ∧ t.offset = 0)

lemma follows_place (capacity : Nat) (s : Slice) (length : Nat) :
    Follows capacity s (place capacity s.mark length) := by
  by_cases h : s.stop + length ≤ capacity
  · rw [place_of_le _ _ h]
    exact ⟨by simp [mark, h], fun hlt => absurd h (Nat.not_le.mpr hlt)⟩
  · rw [place_of_lt _ _ (Nat.lt_of_not_le h)]
    exact ⟨by simp [mark, h], fun _ => ⟨rfl, rfl⟩⟩

lemma Tiles.stop_le {capacity start stop : Nat} {slices : List Slice}
    (h : Tiles start slices stop) (hstart : start ≤ capacity)
    (hall : ∀ s ∈ slices, s.stop ≤ capacity) : stop ≤ capacity := by
  induction slices generalizing start with
  | nil => exact h ▸ hstart
  | cons s slices ih => exact ih h.2 (hall s (by simp)) fun t ht => hall t (by simp [ht])

end Slice

namespace Arena

/-- Every request is answered as it fits a slab, and the slices that were issued lie apart, fill
each slab from its first byte on, use the slabs in sequence and end where the arena goes on. -/
structure Run.Packed (order : ByteOrder) (slabCapacity : Nat) (capacities : List Nat) (run : Run) :
    Prop where
  answered : List.Forall₂ (Answered order slabCapacity) capacities run.outcomes
  lengths : run.slices.map Slice.length = granted slabCapacity capacities
  stop_le : ∀ s ∈ run.slices, s.stop ≤ slabCapacity
  apart : run.slices.Pairwise Slice.Apart
  tiled : ∀ slab, ∃ stop ≤ slabCapacity,
    Slice.Tiles 0 (run.slices.filter (·.slab = slab)) stop
  slab_iff : ∀ slab, (∃ s ∈ run.slices, s.slab = slab) ↔
    1 ≤ slab ∧ slab ≤ run.state.snapshot.slabsAllocated
  ascending : run.slices.Pairwise (·.slab ≤ ·.slab)
  first : ∀ s ∈ run.slices.head?, s.slab = 1 ∧ s.offset = 0
  follows : run.slices.IsChain (Slice.Follows slabCapacity)
  shown : (run.state.snapshot.currentSlab, run.state.snapshot.cursor) =
    match run.slices.getLast? with
    | none => (none, 0)
    | some s => (some s.slab, s.stop)
  /-- So 64 bits are enough for the numbers of slabs and slices in a run of fewer than `2 ^ 64`
  requests. -/
  numbers : run.state.AtMost capacities.length

/-- After any run of requests to a new arena its slices are packed without a gap. -/
theorem run_packed {order : ByteOrder} {slabCapacity : Nat} {arena : Arena}
    (hnew : Arena.new order slabCapacity = .ok arena) (hmax : slabCapacity ≤ maxAllocation)
    (capacities : List Nat) : (arena.run capacities).Packed order slabCapacity capacities := by
  obtain rfl := eq_of_new hnew
  let arena0 : Arena := { order, slabCapacity }
  have hsound := sound_fresh order slabCapacity
  have hslices : (arena0.run capacities).slices =
      layout slabCapacity (.start slabCapacity) (granted slabCapacity capacities) :=
    slices_run hsound hmax capacities
  have hshown : (arena0.run capacities).state.snapshot =
      .of order slabCapacity (arena0.run capacities).slices := by
    rw [state_run hsound hmax, snapshot_foldl_after]
  have hpos : ∀ n ∈ granted slabCapacity capacities, 0 < n := fun n hn => (mem_granted hn).1
  have hfits : ∀ n ∈ granted slabCapacity capacities, n ≤ slabCapacity :=
    fun n hn => (mem_granted hn).2
  have hle := Layout.stop_le slabCapacity (m := .start slabCapacity) hfits
  have hbehind := Layout.pairwise_behind slabCapacity (.start slabCapacity)
    (granted slabCapacity capacities)
  have hcount : (arena0.run capacities).state.snapshot.slabsAllocated =
      (reach slabCapacity (.start slabCapacity) (granted slabCapacity capacities)).1 := by
    rw [Layout.reach_eq_getLast, hshown, Snapshot.of, hslices]
    cases (layout slabCapacity _ (granted slabCapacity capacities)).getLast? <;> rfl
  constructor
  case answered => exact answered_run hsound hmax capacities
  case lengths =>
    rw [hslices]
    exact Layout.map_length ..
  case stop_le =>
    rw [hslices]
    exact hle
  case apart =>
    rw [hslices]
    exact hbehind.imp Slice.Behind.apart
  case tiled =>
    intro slab
    rw [hslices]
    obtain ⟨stop, ht⟩ := Layout.tiles_start slabCapacity hpos slab
    exact ⟨stop, ht.stop_le (Nat.zero_le _) fun s hs => hle s (List.mem_filter.mp hs).1, ht⟩
  case slab_iff =>
    intro slab
    rw [hslices, hcount]
    exact Layout.slab_iff slabCapacity hpos slab
  case ascending =>
    rw [hslices]
    exact hbehind.imp Slice.Behind.slab_le
  case first =>
    rw [hslices]
    exact Layout.head_start slabCapacity hpos
  case follows =>
    rw [hslices]
    refine (Layout.isChain ..).imp fun s t ht => ?_
    rw [ht]
    exact Slice.follows_place slabCapacity s t.length
  case shown =>
    rw [hshown, Snapshot.of]
    cases (run _ capacities).slices.getLast? <;> rfl
  case numbers =>
    simpa using atMost_run hsound hmax capacities (.fresh order slabCapacity)

/-- Requests that fill a slab to the last byte, one that does not fit, and two that no slab could
hold. -/
theorem run_packed_of_four :
    Arena.new .big 4 = .ok { order := .big, slabCapacity := 4 } ∧ 4 ≤ maxAllocation ∧
      (({ order := .big, slabCapacity := 4 } : Arena).run [3, 0, 1, 2, 5, 4]).Packed .big 4
        [3, 0, 1, 2, 5, 4] ∧
      (({ order := .big, slabCapacity := 4 } : Arena).run [3, 0, 1, 2, 5, 4]).slices =
        [⟨1, 0, 3⟩, ⟨1, 3, 1⟩, ⟨2, 0, 2⟩, ⟨3, 0, 4⟩] :=
  ⟨rfl, by decide, run_packed rfl (by decide) _, by decide⟩

end Arena
end BytePool
