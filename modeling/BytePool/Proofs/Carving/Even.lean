import BytePool.Proofs.Carving.Layout

/-!
# Requests of one size

Slices of one size stand in each slab in so many slots as there is room for, and the slots are
filled one after the other.
-/
namespace BytePool

/-- The slot with a number, counted from the first slab on. -/
def slot (capacity size i : Nat) : Slice :=
  ⟨1 + i / (capacity / size), i % (capacity / size) * size, size⟩

/-- The first slots. -/
def slots (capacity size count : Nat) : List Slice := (List.range count).map (slot capacity size)

namespace Layout
variable (capacity : Nat) {size : Nat} (hsize : 0 < size)
include hsize

/-- There is room behind a slot exactly if it is not the last one of its slab. -/
lemma stop_slot_add_le_iff (i : Nat) :
    (slot capacity size i).stop + size ≤ capacity ↔
      i % (capacity / size) + 1 < capacity / size := by
  have hstop : (slot capacity size i).stop + size = (i % (capacity / size) + 2) * size := by
    simp only [slot, Slice.stop]
    ring
  rw [hstop, ← Nat.le_div_iff_mul_le hsize]
  omega

lemma place_start_eq_slot : place capacity (.start capacity) size = slot capacity size 0 := by
  rw [place_start capacity hsize]
  simp [slot]

variable {capacity} (hle : size ≤ capacity)
include hle

/-- The place behind a slot is the next slot. -/
lemma place_mark_slot (i : Nat) :
    place capacity (slot capacity size i).mark size = slot capacity size (i + 1) := by
  have hq : 0 < capacity / size := Nat.div_pos hle hsize
  have hroom := stop_slot_add_le_iff capacity hsize i
  have hmod := Nat.mod_lt i hq
  have hdiv := Nat.div_add_mod i (capacity / size)
  by_cases hlast : i % (capacity / size) + 1 < capacity / size
  · have hnext : (i + 1) / (capacity / size) = i / (capacity / size) ∧
        (i + 1) % (capacity / size) = i % (capacity / size) + 1 := by
      rw [Nat.div_mod_unique hq]
      exact ⟨by omega, hlast⟩
    rw [place_of_le _ _ (hroom.mpr hlast)]
    simp only [slot, Slice.mark, Slice.stop, hnext, Slice.mk.injEq, true_and, and_true]
    ring
  · have hnext : (i + 1) / (capacity / size) = i / (capacity / size) + 1 ∧
        (i + 1) % (capacity / size) = 0 := by
      rw [Nat.div_mod_unique hq]
      refine ⟨?_, hq⟩
      rw [Nat.mul_add]
      omega
    rw [place_of_lt _ _ (Nat.lt_of_not_le fun h => hlast (hroom.mp h))]
    simp only [slot, Slice.mark, hnext, Nat.zero_mul, Slice.mk.injEq, and_self, and_true]
    omega

lemma replicate_mark_slot (i count : Nat) :
    layout capacity (slot capacity size i).mark (List.replicate count size) =
      (List.range count).map fun j => slot capacity size (i + 1 + j) := by
  induction count generalizing i with
  | zero => rfl
  | succ count ih =>
    rw [List.replicate_succ, layout, place_mark_slot hsize hle, ih, List.range_succ_eq_map]
    simp only [List.map_cons, List.map_map, Nat.add_zero, List.cons.injEq, true_and]
    refine List.map_congr_left fun j _ => ?_
    simp only [Function.comp_apply]
    congr 1
    omega

/-- The layout of requests of one size. -/
theorem replicate_start (count : Nat) :
    layout capacity (.start capacity) (List.replicate count size) = slots capacity size count := by
  cases count with
  | zero => rfl
  | succ count =>
    rw [List.replicate_succ, layout, place_start_eq_slot capacity hsize,
      replicate_mark_slot hsize hle, slots, List.range_succ_eq_map]
    simp only [List.map_cons, List.map_map, List.cons.injEq, true_and]
    refine List.map_congr_left fun j _ => ?_
    simp only [Function.comp_apply]
    congr 1
    omega

end Layout

example : slots 10 4 5 = [⟨1, 0, 4⟩, ⟨1, 4, 4⟩, ⟨2, 0, 4⟩, ⟨2, 4, 4⟩, ⟨3, 0, 4⟩] := by decide

end BytePool
