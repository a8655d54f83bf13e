import BytePool.Proofs.Checked.Region
import BytePool.Proofs.Pool.Reachable

/-!
# Marks of a region

Whether a region can go back, and where to, is a matter of all that was done to it since the mark
was last set: a move to a place before the mark gives the mark up, and nothing else does. The
position is never before the mark and never behind the end.
-/
namespace BytePool.Region

/-- The place that the last of all marking uses has marked, if no later use went to a position of
the region before it. -/
def LiveMark (region : Region) (uses : List Use) (mark : Nat) : Prop :=
  ∃ before after, uses = before ++ .move .setMark :: after ∧ .move .setMark ∉ after ∧
    mark = (region.useAll before).position ∧
    ∀ position, .move (.setPosition position) ∈ after → position ≤ region.length → mark ≤ position

/-- A move out of a region of so many bytes, which fails, or a use that comes back to where it
started or to the mark. -/
def Use.isIdle (length : Nat) : Use → Prop
  | .move (.setPosition position) => length < position
  | .move .setMark => False
  | .move .reset | .copy _ => True

/-- The same memory with the same bytes. -/
structure SameMemory (start last : Region) : Prop where
  storage_eq : last.storage = start.storage
  order_eq : last.order = start.order
  bytes_eq : last.bytes = start.bytes

lemma sameMemory_move (region : Region) (m : Move) : SameMemory region (region.move m) := by
  cases m with
  | setPosition position =>
    simp only [move, setPosition]
    split <;> exact ⟨rfl, rfl, rfl⟩
  | setMark => exact ⟨rfl, rfl, rfl⟩
  | reset =>
    simp only [move, reset]
    split <;> exact ⟨rfl, rfl, rfl⟩

lemma sameMemory_moveAll (region : Region) (moves : List Move) :
    SameMemory region (region.moveAll moves) := by
  induction moves using List.reverseRecOn with
  | nil => exact ⟨rfl, rfl, rfl⟩
  | append_singleton moves m ih =>
    have hlast := sameMemory_move (region.moveAll moves) m
    rw [moveAll_append]
    exact ⟨hlast.storage_eq.trans ih.storage_eq, hlast.order_eq.trans ih.order_eq,
      hlast.bytes_eq.trans ih.bytes_eq⟩

/-! ### Marks -/

section Marks
variable {region : Region} (h : region.Placed)
include h

lemma Placed.useAll (uses : List Use) : (region.useAll uses).Placed := by
  rw [h.useAll_eq]
  exact h.moveAll _

lemma Placed.sameMemory (uses : List Use) : SameMemory region (region.useAll uses) := by
  rw [h.useAll_eq]
  exact sameMemory_moveAll region _

/-- Copies have no part in what is marked. -/
lemma Placed.liveMark_iff (uses : List Use) (mark : Nat) :
    region.LiveMark uses mark ↔ region.MarkedAt (uses.filterMap Use.move?) mark := by
  have hmem (m : Move) (uses : List Use) : .move m ∈ uses ↔ m ∈ uses.filterMap Use.move? := by
    refine ⟨fun hm => List.mem_filterMap.mpr ⟨_, hm, rfl⟩, fun hm => ?_⟩
    obtain ⟨u | _, hu, heq⟩ := List.mem_filterMap.mp hm <;> cases heq
    exact hu
  constructor
  · rintro ⟨before, after, rfl, hlast, rfl, hlow⟩
    refine ⟨_, after.filterMap Use.move?, by simp [Use.move?], fun hm => hlast ((hmem _ _).mpr hm),
      congrArg position (h.useAll_eq before), fun p hp => hlow p ((hmem _ _).mpr hp)⟩
  · rintro ⟨before, after, heq, hlast, rfl, hlow⟩
    obtain ⟨first, rest, rfl, rfl, hrest⟩ := List.filterMap_eq_append_iff.mp heq
    obtain ⟨copies, u, after, rfl, hnone, hu, rfl⟩ := List.filterMap_eq_cons_iff.mp hrest
    obtain rfl : u = .move .setMark := by
      cases u with
      | move m => exact congrArg _ (Option.some.inj hu)
      | copy pool => cases hu
    refine ⟨first ++ copies, after, by simp, fun hm => hlast ((hmem _ _).mp hm), ?_,
      fun p hp => hlow p ((hmem _ _).mp hp)⟩
    rw [h.useAll_eq, List.filterMap_append, List.filterMap_eq_nil_iff.mpr hnone, List.append_nil]

/-- The mark of a region is the last one that was set, as long as it was not given up. -/
theorem Placed.mark_useAll (hnone : region.mark = none) (uses : List Use) (mark : Nat) :
    (region.useAll uses).mark = some mark ↔ region.LiveMark uses mark := by
  rw [h.useAll_eq, h.liveMark_iff, region.mark_moveAll _ hnone]

end Marks

/-! ### Going back -/

lemma reset_of_mark {region : Region} {mark : Nat} (h : region.mark = some mark) :
    region.reset = .done () { region with position := mark } := by
  rw [reset, h]

lemma setPosition_ok_iff (region : Region) (position : Nat) :
    (region.setPosition position).outcome = .ok () ↔ position ≤ region.length := by
  unfold setPosition
  split
  case isTrue hlt => exact iff_of_false nofun (Nat.not_le.mpr hlt)
  case isFalse hle => exact iff_of_true rfl (Nat.le_of_not_lt hle)

lemma reset_ok_iff (region : Region) :
    region.reset.outcome = .ok () ↔ ∃ mark, region.mark = some mark := by
  unfold reset
  split
  case h_1 mark hmark => exact iff_of_true rfl ⟨mark, hmark⟩
  case h_2 hnone => exact iff_of_false nofun fun ⟨mark, hmark⟩ => nomatch hnone.symm.trans hmark

/-- Idle uses lead nowhere but to the mark, from where one comes back there. -/
lemma Placed.reset_use {region : Region} (h : region.Placed) {u : Use}
    (hu : u.isIdle region.length) : (region.use u).reset = region.reset := by
  cases u with
  | copy pool => rw [use, h.copyRegion]
  | move m =>
    cases m with
    | setPosition position =>
      rw [use, Region.move, setPosition, if_pos (show region.length < position from hu)]
      rfl
    | setMark => cases hu
    | reset =>
      cases hmark : region.mark with
      | none => simp [use, Region.move, reset, hmark, Reply.refuse]
      | some mark =>
        rw [use, Region.move, reset_of_mark hmark]
        exact reset_of_mark hmark

lemma Placed.reset_useAll {region : Region} (h : region.Placed) {uses : List Use}
    (hidle : ∀ u ∈ uses, u.isIdle region.length) : (region.useAll uses).reset = region.reset := by
  induction uses using List.reverseRecOn with
  | nil => rfl
  | append_singleton uses u ih =>
    obtain ⟨hfirst, hu⟩ := List.forall_mem_append.mp hidle
    have hlength : (region.useAll uses).length = region.length :=
      congrArg List.length (h.sameMemory uses).bytes_eq
    have hlast := (h.useAll uses).reset_use (hlength ▸ hu u (List.mem_singleton_self u))
    rw [Region.useAll, List.foldl_append]
    exact hlast.trans (ih hfirst)

/-! ### All uses -/

/-- What holds of a region at every point of its use. -/
structure Tracks (start : Region) (uses : List Use) (last : Region) : Prop where
  memory : SameMemory start last
  position_le : last.position ≤ last.length
  readable_eq : last.readable = start.bytes.drop last.position ∧
    last.checkedReadable = .ok last.readable
  remaining_eq : last.remaining = start.length - last.position ∧
    last.checkedRemaining = .ok last.remaining
  mark_le : ∀ mark, last.mark = some mark → mark ≤ last.position
  mark_iff : ∀ mark, last.mark = some mark ↔ start.LiveMark uses mark
  setPosition_ok_iff : ∀ position,
    (last.setPosition position).outcome = .ok () ↔ position ≤ start.length
  reset_ok_iff : last.reset.outcome = .ok () ↔ ∃ mark, start.LiveMark uses mark
  reset_eq : ∀ mark, start.LiveMark uses mark →
    last.reset = .done () { last with position := mark }
  /-- A failed reset leaves the region as it is. -/
  reset_of_not : (¬∃ mark, start.LiveMark uses mark) → last.reset.state = last
  copy_eq : ∀ pool : Pool, (pool.copyRegion last).state.2 = last
  /-- Idle uses, no matter how many, have no influence on where the region goes back to. -/
  reset_useAll : ∀ later : List Use, (∀ u ∈ later, u.isIdle start.length) →
    (last.useAll later).reset = last.reset

/-- Of a new region the position always lies between the mark and the end, and the region goes back
exactly to the last place that was marked, unless a move went before that place. -/
theorem tracks_useAll (storage : Storage) (order : ByteOrder) (bytes : List UInt8)
    (uses : List Use) :
    let start : Region := { storage, order, bytes }
    Tracks start uses (start.useAll uses) := by
  intro start
  have hnew : start.Placed := placed_new storage order bytes
  have hlast := hnew.useAll uses
  have hmemory := hnew.sameMemory uses
  have hmark (mark : Nat) := hnew.mark_useAll rfl uses mark
  have hlength : (start.useAll uses).length = start.length := congrArg List.length hmemory.bytes_eq
  constructor
  case memory => exact hmemory
  case position_le => exact hlast.position_le
  case readable_eq =>
    exact ⟨congrArg (List.drop _) hmemory.bytes_eq, Checked.suffix_of_le hlast.position_le⟩
  case remaining_eq =>
    exact ⟨congrArg (· - (start.useAll uses).position) hlength,
      Checked.sub_of_le hlast.position_le⟩
  case mark_le => exact hlast.mark_le
  case mark_iff => exact hmark
  case setPosition_ok_iff =>
    intro position
    rw [Region.setPosition_ok_iff, hlength]
  case reset_ok_iff =>
    rw [Region.reset_ok_iff]
    exact exists_congr hmark
  case reset_eq => exact fun mark hlive => reset_of_mark ((hmark mark).mpr hlive)
  case reset_of_not =>
    intro hnone
    unfold reset
    split
    case h_1 mark hm => exact absurd ⟨mark, (hmark mark).mp hm⟩ hnone
    case h_2 => rfl
  case copy_eq => exact hlast.copyRegion
  case reset_useAll =>
    intro later hidle
    rw [← hlength] at hidle
    exact hlast.reset_useAll hidle

end BytePool.Region
