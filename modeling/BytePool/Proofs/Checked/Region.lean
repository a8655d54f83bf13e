import BytePool.Proofs.Checked.Buffer
import BytePool.Region

/-!
# Regions with checks

The position of a region stays within it, and the mark behind the position; so every difference and
slice is there, and to drain a region into a buffer never fails half way.
-/
namespace BytePool
open Checked (add ensure sub suffix)

namespace Region

structure Sound (region : Region) : Prop where
  position_le : region.position ≤ region.length
  mark_le : ∀ mark, region.mark = some mark → mark ≤ region.position
  length_le : region.length ≤ maxAllocation

def checked : Abstraction Region Region := .such Sound

def checkedRemaining (region : Region) : Except Fault Nat := sub region.length region.position

def checkedReadable (region : Region) : Except Fault (List UInt8) :=
  suffix region.bytes region.position

def checkedAdvance (region : Region) (length : Nat) : Attempt Region Unit :=
  (do
    if (← region.checkedRemaining) < length then
      return .refuse (.indexOutOfRange "length" (← add region.position length) region.length) region
    else
      let position ← add region.position length
      return .done () { region with position } : Except Fault (Reply Region Unit))

def checkedRestore (region : Region) (position : Nat) : Except Fault Region := do
  ensure (position ≤ region.length) .assertion
  return region.restore position

/-- Consuming what is readable never fails. -/
def checkedDrainInto (region : Region) (b : Checked.Buffer) :
    Attempt (Checked.Buffer × Region) Unit :=
  Except.bind region.checkedRemaining fun length =>
    Except.bind region.checkedReadable fun readable =>
      (Attempt.within (·, region) (b.putSlice readable)).bind fun state _ =>
        (state.2.checkedAdvance length).certain.within (state.1, ·)

/-! ### Soundness -/

lemma sound_new (storage : Storage) (order : ByteOrder) {bytes : List UInt8}
    (h : bytes.length ≤ maxAllocation) : Sound { storage, order, bytes } where
  position_le := Nat.zero_le _
  mark_le := nofun
  length_le := h

namespace Sound
variable {region : Region} (h : region.Sound)
include h

theorem checkedRemaining_eq : region.checkedRemaining = .ok region.remaining :=
  Checked.sub_of_le h.position_le

theorem checkedReadable_eq : region.checkedReadable = .ok region.readable :=
  Checked.suffix_of_le h.position_le

lemma setPosition (position : Nat) : (region.setPosition position).state.Sound := by
  unfold Region.setPosition
  split
  case isTrue => exact h
  case isFalse hle =>
    refine ⟨Nat.le_of_not_lt hle, fun mark hmark => ?_, h.length_le⟩
    exact of_decide_eq_true (Option.filter_eq_some_iff.mp hmark).2

lemma setMark : region.setMark.Sound where
  position_le := h.position_le
  mark_le _ hmark := Nat.le_of_eq (Option.some.inj hmark).symm
  length_le := h.length_le

lemma reset : region.reset.state.Sound := by
  unfold Region.reset
  split
  case h_1 mark hmark =>
    refine ⟨Nat.le_trans (h.mark_le mark hmark) h.position_le, fun mark' hmark' => ?_, h.length_le⟩
    rw [hmark] at hmark'
    exact Nat.le_of_eq (Option.some.inj hmark').symm
  case h_2 => exact h

lemma checkedRestore_eq (position : Nat) :
    checkedRestore { region with position } region.position = .ok region := by
  have hin : region.position ≤ Region.length { region with position } := h.position_le
  rw [checkedRestore, Checked.ensure_of hin, restore_of_position_le h.position_le]
  rfl

/-- The position is never before the mark, so that it can go on. -/
lemma advance {length : Nat} (hle : length ≤ region.remaining) :
    Sound { region with position := region.position + length } where
  position_le := by
    have := h.position_le
    simp only [remaining, Region.length] at this hle ⊢
    omega
  mark_le mark hmark := Nat.le_trans (h.mark_le mark hmark) (Nat.le_add_right _ _)
  length_le := h.length_le

/-- Everything that is readable can be consumed. -/
lemma checkedAdvance_follows :
    (region.checkedAdvance region.remaining).certain.Follows checked .same
      (region.advance region.remaining) := by
  have hposition := h.position_le
  have hlength := h.length_le
  have hadd : add region.position region.remaining = .ok (region.position + region.remaining) := by
    apply Checked.add_of_le
    simp only [remaining, maxAllocation, maxWord] at hlength ⊢
    omega
  have hadvance : region.advance region.remaining =
      .done () { region with position := region.position + region.remaining } :=
    if_neg (Nat.lt_irrefl _)
  refine .certain ?_ fun e => by simp [hadvance, Reply.done]
  rw [hadvance, checkedAdvance, h.checkedRemaining_eq]
  simp only [bind, Except.bind, Nat.lt_irrefl, if_false, hadd]
  exact .done (A := checked) (h.advance (Nat.le_refl _)) trivial

theorem checkedDrainInto_follows {b : Checked.Buffer} (hb : b.Sound)
    (hroom : b.writerIndex + region.remaining ≤ maxAllocation) :
    (region.checkedDrainInto b).Follows (Checked.Buffer.stored.prod checked) .same
      (region.drainInto b.view) := by
  unfold checkedDrainInto drainInto
  rw [h.checkedRemaining_eq, h.checkedReadable_eq]
  have hput : (b.putSlice region.readable).Follows Checked.Buffer.stored .same
      (b.view.putSlice region.readable) :=
    Checked.Buffer.putSlice_follows hb (by rwa [region.length_readable])
  have hwithin := hput.within (D := Checked.Buffer.stored.prod (.such (· = region)))
    (f := (·, region)) (g := (·, region)) fun state hs => ⟨⟨hs, rfl⟩, rfl⟩
  simp only [Except.bind]
  -- A put leaves the region alone, so what it can advance is still what was read from it.
  refine hwithin.bind_of (fun (b, r) hs => ?_) fun (b, r) _ hs _ => ?_
  · obtain ⟨hb, rfl⟩ : b.Sound ∧ r = region := hs
    exact ⟨⟨hb, h⟩, rfl⟩
  · obtain ⟨hb, rfl⟩ : b.Sound ∧ r = region := hs
    refine h.checkedAdvance_follows.within (g := (b.view, ·)) fun rest hrest => ?_
    exact ⟨⟨hb, hrest⟩, rfl⟩

end Sound
end Region
end BytePool
