import BytePool.Proofs.Pool.Projection
import BytePool.Proofs.Session.Refusal

/-!
# What can be reached

A pool is reached by requests to a new one, and a region by moves and copies of a new one. To copy a
region leaves it as it was, so a region is where its moves alone have brought it.
-/
namespace BytePool

/-! ### Regions -/

namespace Region

/-- What is done to a region that is kept. -/
inductive Use where
  | move (m : Move)
  /-- A pool copies the region. -/
  | copy (pool : Pool)

def Use.move? : Use → Option Move
  | move m => some m
  | copy _ => none

/-- What a use leaves, also if it is refused. -/
def use (region : Region) : Use → Region
  | .move m => region.move m
  | .copy pool => (pool.copyRegion region).state.2

def useAll (region : Region) (uses : List Use) : Region := uses.foldl use region

/-- Some uses have led here from a new region. -/
def Reachable (region : Region) : Prop :=
  ∃ storage order bytes uses, region = ({ storage, order, bytes } : Region).useAll uses

/-- The position lies in the region, and the mark not behind the position. -/
structure Placed (region : Region) : Prop where
  position_le : region.position ≤ region.length
  mark_le : ∀ mark, region.mark = some mark → mark ≤ region.position

variable {region : Region}

lemma placed_new (storage : Storage) (order : ByteOrder) (bytes : List UInt8) :
    Placed { storage, order, bytes } where
  position_le := Nat.zero_le _
  mark_le := nofun

lemma Placed.move (h : region.Placed) (m : Move) : (region.move m).Placed := by
  cases m with
  | setPosition position =>
    simp only [Region.move, setPosition]
    split
    case isTrue => exact h
    case isFalse hle =>
      refine ⟨Nat.le_of_not_lt hle, fun mark hmark => ?_⟩
      exact of_decide_eq_true (Option.filter_eq_some_iff.mp hmark).2
  | setMark => exact ⟨h.position_le, fun mark hmark => (Option.some.inj hmark).ge⟩
  | reset =>
    simp only [Region.move, reset]
    split
    case h_1 mark hmark =>
      refine ⟨(h.mark_le mark hmark).trans h.position_le, fun mark' hmark' => ?_⟩
      rw [Reply.done, hmark] at hmark'
      exact (Option.some.inj hmark').ge
    case h_2 => exact h

lemma Placed.moveAll (h : region.Placed) (moves : List Move) : (region.moveAll moves).Placed := by
  induction moves generalizing region with
  | nil => exact h
  | cons m moves ih => exact ih (h.move m)

lemma Placed.copyRegion (h : region.Placed) (pool : Pool) :
    (pool.copyRegion region).state.2 = region := by
  obtain ⟨last, heq, hlast⟩ := pool.copyRegion_spec region
  rw [heq, ← hlast h.position_le]
  rfl

/-- No copy makes a difference to a region. -/
theorem Placed.useAll_eq (h : region.Placed) (uses : List Use) :
    region.useAll uses = region.moveAll (uses.filterMap Use.move?) := by
  induction uses generalizing region with
  | nil => rfl
  | cons u uses ih =>
    cases u with
    | move m => exact ih (h.move m)
    | copy pool =>
      have hsame : region.use (.copy pool) = region := h.copyRegion pool
      rw [useAll, List.foldl_cons, hsame]
      exact ih h

lemma Reachable.placed (h : region.Reachable) : region.Placed := by
  obtain ⟨storage, order, bytes, uses, rfl⟩ := h
  have hnew := placed_new storage order bytes
  rw [hnew.useAll_eq]
  exact hnew.moveAll _

end Region

/-! ### Pools -/

namespace Pool

/-- Some requests have led here from a new pool. -/
def Reachable (pool : Pool) : Prop :=
  ∃ defaultOrder slabCapacity start requests,
    Pool.new defaultOrder slabCapacity = .ok start ∧ pool = (start.run requests).state

namespace Reachable
variable {pool : Pool} (h : pool.Reachable)
include h

lemma sound : pool.Sound := by
  obtain ⟨defaultOrder, slabCapacity, start, requests, hnew, rfl⟩ := h
  rw [(eq_fresh_of_new hnew).1]
  exact (sound_fresh_pool defaultOrder slabCapacity).run requests

lemma run (requests : List Request) : (pool.run requests).state.Reachable := by
  obtain ⟨defaultOrder, slabCapacity, start, earlier, hnew, rfl⟩ := h
  exact ⟨defaultOrder, slabCapacity, start, earlier ++ requests, hnew,
    (state_run_append start earlier requests).symm⟩

end Reachable

lemma reachable_fresh (defaultOrder : ByteOrder) {slabCapacity : Nat} (hpos : 0 < slabCapacity) :
    (fresh defaultOrder slabCapacity).Reachable := by
  refine ⟨defaultOrder, slabCapacity, _, [], ?_, rfl⟩
  rw [Pool.new, ofSettings_eq, if_neg hpos.ne']
  rfl

end Pool
end BytePool
