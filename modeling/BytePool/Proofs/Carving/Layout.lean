import Mathlib
import BytePool.Buffer

/-!
# Layouts

Requests for slices are laid out one behind the other: in the slab of the slice before as long as
there is room, and else at the start of the next slab. The main statements say that such a layout
never comes back to a place behind it, and that it leaves no gap inside a slab.
-/
namespace BytePool

/-- The bytes from `offset` up to `offset + length` of a slab. -/
structure Slice where
  slab : Nat
  offset : Nat
  length : Nat
  deriving DecidableEq, Repr

/-- A place between two bytes: a slab and how many of its bytes lie before. -/
abbrev Mark := Nat × Nat

namespace Slice

def stop (s : Slice) : Nat := s.offset + s.length

/-- The place where a slice ends. -/
def mark (s : Slice) : Mark := (s.slab, s.stop)

/-- No byte belongs to both slices. -/
def Apart (s t : Slice) : Prop := s.slab = t.slab → s.stop ≤ t.offset ∨ t.stop ≤ s.offset

/-- A slice that starts at a place or behind it. -/
def Behind (m : Mark) (s : Slice) : Prop := m.1 < s.slab ∨ m.1 = s.slab ∧ m.2 ≤ s.offset

/-- Slices that lie side by side in one slab from a first byte on up to a last one. -/
def Tiles : Nat → List Slice → Nat → Prop
  | start, [], stop => start = stop
  | start, s :: slices, stop => s.offset = start ∧ Tiles s.stop slices stop

lemma Behind.trans_mark {m : Mark} {s t : Slice} (h : s.Behind m) (ht : t.Behind s.mark) :
    t.Behind m := by
  simp only [Behind, mark, stop] at *
  omega

lemma Behind.apart {s t : Slice} (h : t.Behind s.mark) : s.Apart t := by
  intro he
  simp only [Behind, mark] at h
  omega

lemma Behind.slab_le {s t : Slice} (h : t.Behind s.mark) : s.slab ≤ t.slab := by
  simp only [Behind, mark] at h
  omega

lemma Apart.symm {s t : Slice} (h : s.Apart t) : t.Apart s := fun he => (h he.symm).symm

end Slice

/-- Where a request is placed that comes after a mark. -/
def place (capacity : Nat) (m : Mark) (length : Nat) : Slice :=
  if m.2 + length ≤ capacity then ⟨m.1, m.2, length⟩ else ⟨m.1 + 1, 0, length⟩

/-- The slices of requests that come after a mark. -/
def layout (capacity : Nat) : Mark → List Nat → List Slice
  | _, [] => []
  | m, length :: lengths =>
    place capacity m length :: layout capacity (place capacity m length).mark lengths

/-- The mark behind the last of the requests. -/
def reach (capacity : Nat) : Mark → List Nat → Mark
  | m, [] => m
  | m, length :: lengths => reach capacity (place capacity m length).mark lengths

/-- The mark before all requests: behind a slab without room that no slice lies in. -/
def Mark.start (capacity : Nat) : Mark := (0, capacity)

section Placing
variable (capacity : Nat) (m : Mark)

lemma place_of_le {length : Nat} (h : m.2 + length ≤ capacity) :
    place capacity m length = ⟨m.1, m.2, length⟩ := if_pos h

lemma place_of_lt {length : Nat} (h : capacity < m.2 + length) :
    place capacity m length = ⟨m.1 + 1, 0, length⟩ := if_neg (Nat.not_le.mpr h)

@[simp] lemma length_place (length : Nat) : (place capacity m length).length = length := by
  unfold place
  split <;> rfl

lemma place_behind (length : Nat) : (place capacity m length).Behind m := by
  unfold place Slice.Behind
  split
  · exact .inr ⟨rfl, le_rfl⟩
  · exact .inl (Nat.lt_succ_self m.1)

lemma slab_place_le (length : Nat) : (place capacity m length).slab ≤ m.1 + 1 := by
  unfold place
  split
  · exact Nat.le_succ _
  · exact le_rfl

lemma stop_place_le {length : Nat} (h : length ≤ capacity) :
    (place capacity m length).stop ≤ capacity := by
  unfold place Slice.stop
  split
  · assumption
  · simpa using h

lemma place_start {length : Nat} (h : 0 < length) :
    place capacity (.start capacity) length = ⟨1, 0, length⟩ :=
  place_of_lt _ _ (by simp only [Mark.start]; omega)

end Placing

namespace Layout
variable (capacity : Nat)

@[simp] lemma map_length (m : Mark) (lengths : List Nat) :
    (layout capacity m lengths).map Slice.length = lengths := by
  induction lengths generalizing m with
  | nil => rfl
  | cons length lengths ih => simp [layout, ih]

/-- The mark behind all requests is the end of the last slice. -/
lemma reach_eq_getLast (m : Mark) (lengths : List Nat) :
    reach capacity m lengths = (((layout capacity m lengths).getLast?).map Slice.mark).getD m := by
  induction lengths generalizing m with
  | nil => rfl
  | cons length lengths ih =>
    rw [layout, reach, ih, List.getLast?_cons]
    cases (layout capacity (place capacity m length).mark lengths).getLast? <;> rfl

/-! ### Inside the slabs and never back -/

lemma stop_le {m : Mark} {lengths : List Nat} (h : ∀ n ∈ lengths, n ≤ capacity) :
    ∀ s ∈ layout capacity m lengths, s.stop ≤ capacity := by
  induction lengths generalizing m with
  | nil => simp [layout]
  | cons length lengths ih =>
    intro s hs
    obtain rfl | hs := List.mem_cons.mp hs
    · exact stop_place_le capacity m (h length (by simp))
    · exact ih (fun n hn => h n (by simp [hn])) s hs

lemma behind (m : Mark) (lengths : List Nat) :
    ∀ s ∈ layout capacity m lengths, s.Behind m := by
  induction lengths generalizing m with
  | nil => simp [layout]
  | cons length lengths ih =>
    intro s hs
    obtain rfl | hs := List.mem_cons.mp hs
    · exact place_behind capacity m length
    · exact (place_behind capacity m length).trans_mark (ih _ s hs)

/-- Every slice lies behind all slices before it. -/
lemma pairwise_behind (m : Mark) (lengths : List Nat) :
    (layout capacity m lengths).Pairwise fun s t => t.Behind s.mark := by
  induction lengths generalizing m with
  | nil => exact .nil
  | cons length lengths ih => exact .cons (behind capacity _ lengths) (ih _)

/-- Each slice is the place of its request after the slice before it. -/
lemma isChain (m : Mark) (lengths : List Nat) :
    (layout capacity m lengths).IsChain fun s t => t = place capacity s.mark t.length := by
  induction lengths generalizing m with
  | nil => exact .nil
  | cons length lengths ih =>
    have ht := ih (place capacity m length).mark
    cases lengths with
    | nil => exact .singleton _
    | cons next lengths => exact .cons_cons (by simp) ht

/-! ### No gaps -/

/-- The slices in one slab lie side by side: from the mark on in the slab of the mark, and from the
first byte on in all later ones. -/
lemma tiles (m : Mark) (lengths : List Nat) (slab : Nat) :
    ∃ stop, Slice.Tiles (if slab = m.1 then m.2 else 0)
      ((layout capacity m lengths).filter (·.slab = slab)) stop := by
  induction lengths generalizing m with
  | nil => exact ⟨_, rfl⟩
  | cons length lengths ih =>
    obtain ⟨stop, ht⟩ := ih (place capacity m length).mark
    rw [layout]
    by_cases hroom : m.2 + length ≤ capacity
    · rw [place_of_le capacity m hroom] at ht ⊢
      refine ⟨stop, ?_⟩
      by_cases hs : slab = m.1
      · subst hs
        simpa [Slice.Tiles, Slice.mark, Slice.stop] using ht
      · simpa [hs, Ne.symm hs, Slice.mark] using ht
    · rw [place_of_lt capacity m (Nat.lt_of_not_le hroom)] at ht ⊢
      by_cases hs : slab = m.1
      · -- The old slab is left for good, so no slice is in it.
        subst hs
        refine ⟨m.2, ?_⟩
        have hnone : (layout capacity (Slice.mark ⟨m.1 + 1, 0, length⟩) lengths).filter
            (·.slab = m.1) = [] := by
          rw [List.filter_eq_nil_iff]
          intro s hmem
          have hb := behind capacity _ lengths s hmem
          simp only [Slice.Behind, Slice.mark] at hb
          simp only [decide_eq_true_eq]
          omega
        simp [hnone, Slice.Tiles]
      · refine ⟨stop, ?_⟩
        by_cases hn : slab = m.1 + 1
        · subst hn
          simpa [Slice.Tiles, Slice.mark, Slice.stop] using ht
        · simpa [hs, hn, Ne.symm hn, Slice.mark] using ht

/-- No slab is left out on the way to the last one. -/
lemma exists_slab (m : Mark) (lengths : List Nat) (slab : Nat) (hlt : m.1 < slab)
    (hle : slab ≤ (reach capacity m lengths).1) :
    ∃ s ∈ layout capacity m lengths, s.slab = slab := by
  induction lengths generalizing m with
  | nil => simp only [reach] at hle; omega
  | cons length lengths ih =>
    by_cases hs : (place capacity m length).slab = slab
    · exact ⟨_, by simp [layout], hs⟩
    · have hnext : (place capacity m length).slab < slab := by
        have := slab_place_le capacity m length
        omega
      obtain ⟨s, hmem, he⟩ := ih _ hnext hle
      exact ⟨s, by simp [layout, hmem], he⟩

lemma slab_le_reach (m : Mark) (lengths : List Nat) :
    m.1 ≤ (reach capacity m lengths).1 ∧
      ∀ s ∈ layout capacity m lengths, s.slab ≤ (reach capacity m lengths).1 := by
  induction lengths generalizing m with
  | nil => simp [layout, reach]
  | cons length lengths ih =>
    obtain ⟨hm, hall⟩ := ih (place capacity m length).mark
    have hp := place_behind capacity m length
    have hmark : (place capacity m length).slab ≤ (reach capacity m (length :: lengths)).1 := hm
    refine ⟨?_, fun s hs => ?_⟩
    · simp only [Slice.Behind] at hp
      omega
    · obtain rfl | hs := List.mem_cons.mp hs
      · exact hmark
      · exact hall s hs

/-! ### From the first slab on -/

section Start
variable {lengths : List Nat} (hpos : ∀ n ∈ lengths, 0 < n)
include hpos

lemma slab_pos_of_mem {s : Slice} (hs : s ∈ layout capacity (.start capacity) lengths) :
    0 < s.slab := by
  cases lengths with
  | nil => simp [layout] at hs
  | cons length lengths =>
    have h := place_start capacity (hpos length (by simp))
    obtain rfl | hs := List.mem_cons.mp hs
    · rw [h]; exact Nat.one_pos
    · have hb := behind capacity _ lengths s hs
      rw [h] at hb
      simp only [Slice.Behind, Slice.mark] at hb
      omega

/-- The slabs in use are those from the first one up to the slab of the last slice. -/
lemma slab_iff (slab : Nat) :
    (∃ s ∈ layout capacity (.start capacity) lengths, s.slab = slab) ↔
      1 ≤ slab ∧ slab ≤ (reach capacity (.start capacity) lengths).1 := by
  constructor
  · rintro ⟨s, hs, rfl⟩
    exact ⟨slab_pos_of_mem capacity hpos hs, (slab_le_reach capacity _ lengths).2 s hs⟩
  · rintro ⟨h1, h2⟩
    exact exists_slab capacity _ lengths slab h1 h2

/-- Every slab is filled from its first byte on. -/
lemma tiles_start (slab : Nat) :
    ∃ stop, Slice.Tiles 0 ((layout capacity (.start capacity) lengths).filter (·.slab = slab))
      stop := by
  by_cases hs : slab = 0
  · -- No slice lies in the slab before the first one.
    refine ⟨0, ?_⟩
    have hnone : (layout capacity (.start capacity) lengths).filter (·.slab = slab) = [] := by
      rw [List.filter_eq_nil_iff]
      intro s hmem
      have := slab_pos_of_mem capacity hpos hmem
      simp only [decide_eq_true_eq]
      omega
    rw [hnone]
    rfl
  · have ht := tiles capacity (.start capacity) lengths slab
    have hne : slab ≠ (Mark.start capacity).1 := hs
    rwa [if_neg hne] at ht

lemma head_start : ∀ s ∈ (layout capacity (.start capacity) lengths).head?,
    s.slab = 1 ∧ s.offset = 0 := by
  cases lengths with
  | nil => simp [layout]
  | cons length lengths =>
    intro s hs
    obtain rfl : place capacity (.start capacity) length = s := by simpa [layout] using hs
    rw [place_start capacity (hpos length (by simp))]
    exact ⟨rfl, rfl⟩

end Start

end Layout
end BytePool
