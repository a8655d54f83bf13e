import BytePool.Proofs.Memory.Window

/-!
# Isolation

Every holding has its window for itself, and what lies behind the mark of an arena was never
written. Both stay true when a slice is issued behind the mark and when an operation writes in its
window.
-/
namespace BytePool

/-- A buffer that is there. Once it is frozen it is only read. -/
structure Entry (β : Type) where
  buffer : β
  frozen : Bool := false
  deriving DecidableEq, Repr

def Entry.map {α β : Type} (f : α → β) (e : Entry α) : Entry β := ⟨f e.buffer, e.frozen⟩

/-- The windows of the holdings lie apart from each other and before the marks, and all bytes behind
the marks are zero. -/
structure Isolated (mark : Owner → Mark) (capacity : Owner → Nat) (m : Memory)
    (holdings : List (Option (Entry Holding))) : Prop where
  length_eq (owner : Owner) (slab : Nat) : (m owner slab).length = capacity owner
  clean (owner : Owner) (s : Slice) : s.Behind (mark owner) → s.stop ≤ capacity owner →
    m.bytesAt owner s = List.replicate s.length 0
  fits (j : Nat) (e : Entry Holding) : holdings[j]? = some (some e) → e.buffer.Fits m
  passed (j : Nat) (e : Entry Holding) : holdings[j]? = some (some e) →
    ∀ owner s, e.buffer.window? = some (owner, s) → ∀ t : Slice, t.Behind (mark owner) → s.Apart t
  apart (j k : Nat) (e f : Entry Holding) : j ≠ k → holdings[j]? = some (some e) →
    holdings[k]? = some (some f) → ∀ owner s t, e.buffer.window? = some (owner, s) →
      f.buffer.window? = some (owner, t) → s.Apart t

/-- Arrays of zero bytes. -/
def Memory.zero (capacity : Owner → Nat) : Memory :=
  fun owner _ => List.replicate (capacity owner) 0

lemma Holding.Fits.congr {h : Holding} {m m' : Memory} (hf : h.Fits m)
    (hlength : ∀ owner slab, (m' owner slab).length = (m owner slab).length) : h.Fits m' := by
  cases hp : h.place with
  | window owner s writerIndex => simpa only [Fits, hp, hlength] using hf
  | own bytes capacity => simpa only [Fits, hp] using hf

namespace Isolated
variable {mark mark' : Owner → Mark} {capacity : Owner → Nat} {m m' : Memory}
  {holdings : List (Option (Entry Holding))}

lemma zero (mark : Owner → Mark) (capacity : Owner → Nat) :
    Isolated mark capacity (.zero capacity) [] where
  length_eq owner slab := by simp [Memory.zero]
  clean owner s _ hstop := by
    simp only [Memory.bytesAt, Memory.zero, List.drop_replicate, List.take_replicate]
    simp only [Slice.stop] at hstop
    congr 1
    omega
  fits j e hj := by simp at hj
  passed j e hj := by simp at hj
  apart j k e f _ hj := by simp at hj

/-- One more holding, whose window lies behind the old mark and before the new one. -/
lemma push (h : Isolated mark capacity m holdings) {held : Holding} (hf : held.Fits m)
    (hmark : ∀ owner (t : Slice), t.Behind (mark' owner) → t.Behind (mark owner))
    (hwindow : ∀ owner s, held.window? = some (owner, s) →
      s.Behind (mark owner) ∧ ∀ t : Slice, t.Behind (mark' owner) → s.Apart t) :
    Isolated mark' capacity m (holdings ++ [some { buffer := held }]) := by
  have hcases {j : Nat} {e : Entry Holding}
      (hj : (holdings ++ [some { buffer := held }])[j]? = some (some e)) :
      holdings[j]? = some (some e) ∧ j < holdings.length ∨
        j = holdings.length ∧ e = { buffer := held } := by
    obtain hlt | hge := Nat.lt_or_ge j holdings.length
    · rw [List.getElem?_append_left hlt] at hj
      exact .inl ⟨hj, hlt⟩
    · rw [List.getElem?_append_right hge, List.getElem?_singleton] at hj
      split at hj
      · cases hj
        exact .inr ⟨by omega, rfl⟩
      · cases hj
  constructor
  case length_eq => exact h.length_eq
  case clean => exact fun owner s hs => h.clean owner s (hmark owner s hs)
  case fits =>
    intro j e hj
    obtain ⟨hj, -⟩ | ⟨-, rfl⟩ := hcases hj
    · exact h.fits j e hj
    · exact hf
  case passed =>
    intro j e hj owner s hs t ht
    obtain ⟨hj, -⟩ | ⟨-, rfl⟩ := hcases hj
    · exact h.passed j e hj owner s hs t (hmark owner t ht)
    · exact (hwindow owner s hs).2 t ht
  case apart =>
    intro j k e f hne hj hk owner s t hs ht
    obtain ⟨hj, hjlt⟩ | ⟨hj, rfl⟩ := hcases hj
    · obtain ⟨hk, -⟩ | ⟨-, rfl⟩ := hcases hk
      · exact h.apart j k e f hne hj hk owner s t hs ht
      · exact h.passed j e hj owner s hs t (hwindow owner t ht).1
    · obtain ⟨hk, -⟩ | ⟨hk, -⟩ := hcases hk
      · exact (h.passed k f hk owner t ht s (hwindow owner s hs).1).symm
      · omega

/-- A holding is changed or given up, and nothing is written but in its window. -/
lemma update (h : Isolated mark capacity m holdings) {j : Nat} {e : Entry Holding}
    (hj : holdings[j]? = some (some e))
    (hlength : ∀ owner slab, (m' owner slab).length = (m owner slab).length)
    (hframe : ∀ owner t, (∀ s, e.buffer.window? = some (owner, s) → s.Apart t) →
      m'.bytesAt owner t = m.bytesAt owner t)
    {e' : Option (Entry Holding)}
    (hnew : ∀ f ∈ e', f.buffer.Fits m' ∧
      ∀ w, f.buffer.window? = some w → e.buffer.window? = some w) :
    Isolated mark capacity m' (holdings.set j e') := by
  obtain ⟨hlt, -⟩ := List.getElem?_eq_some_iff.mp hj
  -- Each holding that is there has the window of one that was there before.
  have hcases {k : Nat} {f : Entry Holding} (hk : (holdings.set j e')[k]? = some (some f)) :
      ∃ old, holdings[k]? = some (some old) ∧ f.buffer.Fits m' ∧
        ∀ w, f.buffer.window? = some w → old.buffer.window? = some w := by
    by_cases hkj : k = j
    · subst hkj
      rw [List.getElem?_set_self hlt, Option.some.injEq] at hk
      obtain ⟨hf, hw⟩ := hnew f hk
      exact ⟨e, hj, hf, hw⟩
    · rw [List.getElem?_set_ne (Ne.symm hkj)] at hk
      exact ⟨f, hk, (h.fits k f hk).congr hlength, fun _ hw => hw⟩
  constructor
  case length_eq => exact fun owner slab => (hlength owner slab).trans (h.length_eq owner slab)
  case clean =>
    intro owner s hs hstop
    rw [hframe owner s fun t ht => h.passed j e hj owner t ht s hs]
    exact h.clean owner s hs hstop
  case fits =>
    intro k f hk
    obtain ⟨_, _, hf, _⟩ := hcases hk
    exact hf
  case passed =>
    intro k f hk owner s hs
    obtain ⟨old, hold, -, hw⟩ := hcases hk
    exact h.passed k old hold owner s (hw _ hs)
  case apart =>
    intro k l f g hne hk hl owner s t hs ht
    obtain ⟨old, hold, -, hw⟩ := hcases hk
    obtain ⟨old', hold', -, hw'⟩ := hcases hl
    exact h.apart k l old old' hne hold hold' owner s t (hw _ hs) (hw' _ ht)

/-- What is written in one window is not seen through any other holding. -/
lemma view_eq (h : Isolated mark capacity m holdings) {j k : Nat} {e f : Entry Holding}
    (hj : holdings[j]? = some (some e)) (hk : holdings[k]? = some (some f)) (hne : j ≠ k)
    (hframe : ∀ owner t, (∀ s, e.buffer.window? = some (owner, s) → s.Apart t) →
      m'.bytesAt owner t = m.bytesAt owner t) : f.buffer.view m' = f.buffer.view m := by
  refine Holding.view_congr (h.fits k f hk) fun owner t ht => ?_
  exact hframe owner t fun s hs => h.apart j k e f hne hj hk owner s t hs ht

end Isolated
end BytePool
