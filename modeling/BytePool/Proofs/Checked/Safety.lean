import BytePool.Proofs.Checked.Step
import BytePool.Proofs.Session.Overflow

/-!
# Runs without faults

As long as the counters of the arenas and the bytes of the buffers stay within their bounds, a run
meets no check that fails. What is left is memory that cannot be had, and it is told beforehand
which steps ask for it.
-/
namespace BytePool

/-- Whatever carves has slabs with room for something: pools, arenas, and the pools of
registries. -/
structure Session.HasSlabs (s : Session) : Prop where
  pools : ∀ pool ∈ s.heap.pools, ∀ order,
    0 < pool.slabCapacity ∧ (pool.arenas.get order).slabCapacity = pool.slabCapacity
  arenas : s.arenas.All (0 < ·.slabCapacity)
  registries : s.registries.All fun registry => ∀ order,
    ∃ pool, s.heap.get? (registry.get order) = some pool ∧ 0 < pool.slabCapacity

namespace Checked.Session
open BytePool.Session (Command)

lemma sound_empty : Sound {} where
  pools := by simp
  registries := nofun
  buffers := nofun
  regions := nofun
  frozen := nofun
  arenas := nofun
  slabs := nofun
  chunks := nofun

lemma Sound.hasSlabs {s : Session} (h : s.Sound) : s.view.HasSlabs := by
  constructor
  case pools =>
    intro pool hpool order
    obtain ⟨pool, hmem, rfl⟩ := List.mem_map.mp hpool
    have hsound := h.pools pool hmem
    refine ⟨hsound.slabCapacity_pos, ?_⟩
    rw [Pool.view, PerOrder.get_map]
    exact hsound.slabCapacity_eq order
  case arenas =>
    intro entry hentry
    obtain ⟨entry, hmem, rfl⟩ := List.mem_map.mp hentry
    exact (h.arenas entry hmem).slabCapacity_pos
  case registries =>
    intro entry hentry order
    have hlt := h.registries entry hentry order
    refine ⟨(s.pools[entry.2.get order]).view, ?_, ?_⟩
    · simp [view, Heap.get?, hlt]
    · exact (h.pools _ (List.getElem_mem hlt)).slabCapacity_pos

/-! ### Runs -/

/-- Every command of a run finds room for what it adds. -/
def Bounded (s : Session) : List Command → Prop
  | [] => True
  | command :: commands =>
    s.Fits command ∧ ∀ turn, s.step command = .ok turn → turn.session.Bounded commands

lemma run_follows {s : Session} (h : s.Sound) {commands : List Command}
    (hbounded : s.Bounded commands) :
    ∃ turns, s.run commands = .ok turns ∧ (∀ turn ∈ turns, turn.session.Sound) ∧
      turns.map Turn.view = s.view.run commands := by
  -- The session after a step is sound again, so the rest of the run starts from such a one too.
  induction commands generalizing s with
  | nil => exact ⟨[], rfl, by simp, rfl⟩
  | cons command commands ih =>
    obtain ⟨hfits, hrest⟩ := hbounded
    obtain ⟨turn, hstep, hsound, hview⟩ := step_follows h hfits
    obtain ⟨turns, hrun, hsounds, hviews⟩ := ih hsound (hrest turn hstep)
    refine ⟨turn :: turns, ?_, List.forall_mem_cons.mpr ⟨hsound, hsounds⟩, ?_⟩
    · rw [run, hstep]
      simp only [bind, Except.bind, hrun]
      rfl
    · rw [BytePool.Session.run, hview, List.map_cons, hviews]
      rfl

/-- In a run within the bounds no check ever fails: no difference goes below zero, no sum leaves the
machine words, no slice or carved length leaves what it is taken from, and no way out of a failure
that cannot happen is taken. Every step does what the unchecked one does, nothing without room in
its slabs is ever there, and a step overflows exactly if it asks for more than one allocation can
have. -/
theorem run_safe {commands : List Command} (hbounded : Bounded {} commands) :
    (∃ turns, run {} commands = .ok turns ∧
      turns.map Turn.view = BytePool.Session.run {} commands ∧
      ∀ turn ∈ turns, turn.session.Sound ∧ turn.session.view.HasSlabs) ∧
    ∀ (s : BytePool.Session) (command : Command),
      (s.step command).outcome = .error (.failed .capacityOverflow) ↔ command.Overflows s := by
  obtain ⟨turns, hrun, hsound, hview⟩ := run_follows sound_empty hbounded
  exact ⟨⟨turns, hrun, hview, fun turn hturn => ⟨hsound turn hturn, (hsound turn hturn).hasSlabs⟩⟩,
    fun s command => s.step_overflowsIff command⟩

/-- A copy is carved from the slab of a pool and read in part, and then a slab is asked for that is
too large by one byte. -/
theorem run_safe_of_four :
    let commands : List Command :=
      [.pool (.new .big 4 "pool"), .pool (.request "pool" (.copyBytes [1, 2, 3]) "b"),
        .buffer (.perform "b" (.skip 2)), .slab (.allocate 1 (maxAllocation + 1) "slab")]
    Bounded {} commands ∧
      (∃ turns, run {} commands = .ok turns ∧
        turns.map Turn.view = BytePool.Session.run {} commands) ∧
      ∀ s : BytePool.Session,
        (s.step (.slab (.allocate 1 (maxAllocation + 1) "slab"))).outcome =
          .error (.failed .capacityOverflow) := by
  intro commands
  have hbounded : Bounded {} commands := by
    refine ⟨trivial, fun turn hnew => ?_⟩
    cases hnew
    refine ⟨⟨show 3 ≤ maxAllocation by decide, fun handle pool hheld => ?_⟩, fun turn hcopy => ?_⟩
    · cases hheld
      exact fun _ _ _ _ => ⟨fun _ => by decide, fun _ => by decide, fun _ => by decide⟩
    cases hcopy
    refine ⟨fun b hb => ?_, fun turn hskip => ?_⟩
    · cases hb
      decide
    cases hskip
    exact ⟨trivial, fun _ _ => trivial⟩
  obtain ⟨⟨turns, hrun, hview, -⟩, hoverflow⟩ := run_safe hbounded
  refine ⟨hbounded, ⟨turns, hrun, hview⟩, fun s => (hoverflow s _).mpr ?_⟩
  exact Nat.lt_succ_self maxAllocation

end Checked.Session
end BytePool
