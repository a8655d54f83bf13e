import BytePool.Proofs.Carving.Run

/-!
# What slabs cost

A slab is given up only for a request that has no room in it, and the slab in its place starts with
this request. So two slabs in sequence hold more than one of them could, and an arena makes slabs in
proportion to the bytes that it issues, whatever the sizes of the requests are.
-/
namespace BytePool

namespace Slice

/-- How many bytes of a slab belong to slices. -/
def held (slab : Nat) (slices : List Slice) : Nat :=
  ((slices.filter (·.slab = slab)).map length).sum

/-- How many bytes of the slabs before one belong to slices. -/
def heldBelow (slab : Nat) (slices : List Slice) : Nat :=
  ((slices.filter (·.slab < slab)).map length).sum

lemma held_cons (slab : Nat) (s : Slice) (slices : List Slice) :
    held slab (s :: slices) = (if s.slab = slab then s.length else 0) + held slab slices := by
  by_cases h : s.slab = slab <;> simp [held, h]

lemma heldBelow_cons (slab : Nat) (s : Slice) (slices : List Slice) :
    heldBelow slab (s :: slices) =
      (if s.slab < slab then s.length else 0) + heldBelow slab slices := by
  by_cases h : s.slab < slab <;> simp [heldBelow, h]

lemma heldBelow_succ (slab : Nat) (slices : List Slice) :
    heldBelow (slab + 1) slices = heldBelow slab slices + held slab slices := by
  induction slices with
  | nil => rfl
  | cons s slices ih =>
    rw [heldBelow_cons, heldBelow_cons, held_cons, ih]
    split_ifs <;> omega

lemma heldBelow_le (slab : Nat) (slices : List Slice) :
    heldBelow slab slices ≤ (slices.map length).sum := by
  induction slices with
  | nil => exact le_rfl
  | cons s slices ih =>
    rw [heldBelow_cons, List.map_cons, List.sum_cons]
    split_ifs <;> omega

/-- Slabs that are taken two by two hold so many times more than one of them could. -/
lemma mul_succ_le_heldBelow {capacity last : Nat} {slices : List Slice}
    (h : ∀ slab, 1 ≤ slab → slab < last →
      capacity < held slab slices + held (slab + 1) slices)
    (pairs : Nat) (hle : 2 * pairs ≤ last) :
    pairs * (capacity + 1) ≤ heldBelow (2 * pairs + 1) slices := by
  induction pairs with
  | zero => simp
  | succ pairs ih =>
    have hpair := h (2 * pairs + 1) (by omega) (by omega)
    have hbelow := ih (by omega)
    calc (pairs + 1) * (capacity + 1) = pairs * (capacity + 1) + (capacity + 1) := by ring
      _ ≤ heldBelow (2 * pairs + 1) slices +
          (held (2 * pairs + 1) slices + held (2 * pairs + 2) slices) :=
        Nat.add_le_add hbelow hpair
      _ = heldBelow (2 * (pairs + 1) + 1) slices := by
        rw [show 2 * (pairs + 1) + 1 = 2 * pairs + 2 + 1 by ring, heldBelow_succ (2 * pairs + 2),
          heldBelow_succ (2 * pairs + 1), Nat.add_assoc]

end Slice

namespace Layout
variable (capacity : Nat)
open Slice (held held_cons)

/-- Two slabs in sequence hold more than one of them could, if what lies before the mark is counted
in the slab of the mark. -/
lemma lt_held_add_held (m : Mark) (lengths : List Nat) {slab : Nat} (hm : m.1 ≤ slab)
    (hreach : slab < (reach capacity m lengths).1) :
    capacity < (if slab = m.1 then m.2 else 0) +
      (held slab (layout capacity m lengths) + held (slab + 1) (layout capacity m lengths)) := by
  induction lengths generalizing m with
  | nil => exact absurd hreach (Nat.not_lt.mpr hm)
  | cons length lengths ih =>
    rw [layout, held_cons, held_cons]
    rw [reach] at hreach
    by_cases hroom : m.2 + length ≤ capacity
    · rw [place_of_le capacity m hroom] at hreach ⊢
      have hrest := ih (m.1, m.2 + length) hm hreach
      by_cases hs : slab = m.1
      · subst hs
        simp only [Slice.mark, Slice.stop, if_true] at hrest ⊢
        omega
      · simp only [Slice.mark, Slice.stop, if_neg hs] at hrest ⊢
        omega
    · rw [place_of_lt capacity m (Nat.lt_of_not_le hroom)] at hreach ⊢
      by_cases hs : slab = m.1
      · -- The next slab starts with the request that found no room in this one.
        subst hs
        simp only [if_true]
        omega
      · have hrest := ih (m.1 + 1, 0 + length) (by simp only; omega) hreach
        simp only [Slice.mark, Slice.stop, if_neg hs] at hrest ⊢
        by_cases hn : slab = m.1 + 1
        · subst hn
          simp only [if_true] at hrest ⊢
          omega
        · simp only [if_neg hn] at hrest
          omega

/-- No slab holds more than its capacity. -/
lemma sum_le_reach {m : Mark} {lengths : List Nat} (hm : m.2 ≤ capacity)
    (hfits : ∀ n ∈ lengths, n ≤ capacity) :
    lengths.sum + (m.1 * capacity + m.2) ≤
        (reach capacity m lengths).1 * capacity + (reach capacity m lengths).2 ∧
      (reach capacity m lengths).2 ≤ capacity := by
  induction lengths generalizing m with
  | nil => simpa [reach] using hm
  | cons length lengths ih =>
    have hlength := hfits length (by simp)
    obtain ⟨hsum, hstop⟩ := ih (m := (place capacity m length).mark)
      (stop_place_le capacity m hlength) fun n hn => hfits n (by simp [hn])
    refine ⟨?_, hstop⟩
    rw [reach, List.sum_cons]
    -- A request moves the mark on by its length, and by what it leaves free in the old slab.
    have hmark : length + (m.1 * capacity + m.2) ≤
        (place capacity m length).mark.1 * capacity + (place capacity m length).mark.2 := by
      by_cases hroom : m.2 + length ≤ capacity
      · rw [place_of_le capacity m hroom]
        simp only [Slice.mark, Slice.stop]
        omega
      · rw [place_of_lt capacity m (Nat.lt_of_not_le hroom)]
        simp only [Slice.mark, Slice.stop, Nat.add_mul]
        omega
    omega

end Layout

namespace Arena

/-- The capacities of the requests that were served. -/
def Run.served (run : Run) (capacities : List Nat) : List Nat :=
  ((capacities.zip run.outcomes).filter (·.2.isOk)).map Prod.fst

/-- What is served is the slices that are issued. -/
lemma served_eq_map_length {order : ByteOrder} {slabCapacity : Nat} {capacities : List Nat}
    {run : Run} (h : List.Forall₂ (Answered order slabCapacity) capacities run.outcomes) :
    run.served capacities = run.slices.map Slice.length := by
  unfold Run.served Run.slices
  generalize run.outcomes = outcomes at h
  induction h with
  | nil => rfl
  | @cons capacity outcome capacities outcomes hanswer _ ih =>
    cases outcome with
    | error failure =>
      rw [List.zip_cons_cons, List.filter_cons_of_neg (by simp [Except.isOk, Except.toBool]), ih,
        List.filterMap_cons_none rfl]
    | ok b =>
      obtain ⟨-, s, rfl, hs⟩ := hanswer
      have hslice : sliceOf (.ok (s.blank order)) = some s := s.slice?_origin_blank order
      rw [List.zip_cons_cons, List.filter_cons_of_pos rfl, List.map_cons, ih,
        List.filterMap_cons_some hslice, List.map_cons, hs]

/-- The slabs that were made are bounded by the bytes that were issued, from both sides. -/
structure Run.Amortised (slabCapacity slabs bytes : Nat) (run : Run) : Prop where
  adjacent : ∀ slab, 1 ≤ slab → slab < slabs →
    slabCapacity < Slice.held slab run.slices + Slice.held (slab + 1) run.slices
  pairs_le : slabs / 2 * (slabCapacity + 1) ≤ bytes
  bytes_le : bytes ≤ slabs * slabCapacity
  slabs_le : slabs ≤ 2 * bytes / (slabCapacity + 1) + 1
  le_slabs : (bytes + (slabCapacity - 1)) / slabCapacity ≤ slabs

/-- Both bounds follow from what adjacent slabs hold and from what a slab can hold. -/
lemma Run.Amortised.of {slabCapacity slabs bytes : Nat} {run : Run} (hpos : 0 < slabCapacity)
    (hbytes : bytes = (run.slices.map Slice.length).sum)
    (hadjacent : ∀ slab, 1 ≤ slab → slab < slabs →
      slabCapacity < Slice.held slab run.slices + Slice.held (slab + 1) run.slices)
    (hle : bytes ≤ slabs * slabCapacity) : run.Amortised slabCapacity slabs bytes := by
  have hpairs : slabs / 2 * (slabCapacity + 1) ≤ bytes :=
    hbytes ▸ (Slice.mul_succ_le_heldBelow hadjacent (slabs / 2) (Nat.mul_div_le slabs 2)).trans
      (Slice.heldBelow_le _ _)
  constructor
  case adjacent => exact hadjacent
  case pairs_le => exact hpairs
  case bytes_le => exact hle
  case slabs_le =>
    have htwice : 2 * (slabs / 2) ≤ 2 * bytes / (slabCapacity + 1) := by
      rw [Nat.le_div_iff_mul_le (Nat.succ_pos _), Nat.mul_assoc]
      exact Nat.mul_le_mul_left 2 hpairs
    omega
  case le_slabs =>
    rw [← Nat.lt_succ_iff, Nat.div_lt_iff_lt_mul hpos, Nat.succ_mul]
    omega

/-- A new arena makes slabs in proportion to the bytes that it issues: any two of them in sequence
hold more than a slab has room for, so at most one for each half of a slab and one more. -/
theorem run_amortised {order : ByteOrder} {slabCapacity : Nat} {arena : Arena}
    (hnew : Arena.new order slabCapacity = .ok arena) (hmax : slabCapacity ≤ maxAllocation)
    (capacities : List Nat) :
    (arena.run capacities).Amortised slabCapacity
      (arena.run capacities).state.snapshot.slabsAllocated
      ((arena.run capacities).served capacities).sum := by
  obtain rfl := eq_of_new hnew
  have hsound := sound_fresh order slabCapacity
  have hslices := slices_run hsound hmax capacities
  have hslabs := slabsAllocated_run order hmax capacities
  have hbytes := congrArg List.sum (served_eq_map_length (answered_run hsound hmax capacities))
  refine .of (pos_of_new hnew) hbytes ?_ ?_
  · intro slab hfirst hlt
    have hheld := Layout.lt_held_add_held slabCapacity (.start slabCapacity)
      (granted slabCapacity capacities) (Nat.zero_le slab) (hslabs ▸ hlt)
    have hne : slab ≠ (Mark.start slabCapacity).1 := Nat.ne_of_gt hfirst
    rw [if_neg hne, Nat.zero_add] at hheld
    rw [hslices]
    exact hheld
  · have hfits : ∀ n ∈ granted slabCapacity capacities, n ≤ slabCapacity :=
      fun n hn => (mem_granted hn).2
    obtain ⟨hsum, hstop⟩ := Layout.sum_le_reach slabCapacity (m := .start slabCapacity) le_rfl hfits
    rw [hbytes, hslices, Layout.map_length, hslabs]
    simp only [Mark.start] at hsum hstop ⊢
    omega

/-- Slabs that hold one byte and slabs that are full, by turns, are as many as there can be. -/
theorem run_amortised_of_five :
    let run := ({ order := .big, slabCapacity := 4 } : Arena).run [1, 4, 0, 1, 5, 4, 1]
    Arena.new .big 4 = .ok { order := .big, slabCapacity := 4 } ∧ 4 ≤ maxAllocation ∧
      run.Amortised 4 5 11 ∧ 5 = 2 * 11 / (4 + 1) + 1 := by
  intro run
  have hslabs : run.state.snapshot.slabsAllocated = 5 := by decide
  have hbytes : (run.served [1, 4, 0, 1, 5, 4, 1]).sum = 11 := by decide
  refine ⟨rfl, by decide, ?_, rfl⟩
  rw [← hslabs, ← hbytes]
  exact run_amortised rfl (by decide) _

end Arena
end BytePool
