import BytePool.Proofs.Pool.Projection
import BytePool.Session.Command

/-!
# Steps that touch no memory

A session grows by pools that nobody has asked for anything yet. They come with room in their slabs
and stay where they are, so that a registry never loses its pools.
-/
namespace BytePool

/-! ### New pools -/

/-- Nobody has asked the pool for anything yet. -/
def Pool.IsFresh (pool : Pool) : Prop :=
  ∃ order slabCapacity, 0 < slabCapacity ∧ pool = .fresh order slabCapacity

lemma Pool.isFresh_of_ofSettings {settings : Settings} {pool : Pool}
    (h : Pool.ofSettings settings = .ok pool) : pool.IsFresh := by
  obtain ⟨rfl, hpos⟩ := Pool.eq_fresh_of_new h
  exact ⟨_, _, hpos, rfl⟩

lemma Pool.isFresh_ofOrder (order : ByteOrder) : (Pool.ofOrder order).IsFresh :=
  ⟨_, _, by decide, rfl⟩

lemma Settings.of_bind_eq_ok {α : Type} {read : Except Error Settings}
    {make : Settings → Except Error α} {made : α} (h : read.bind make = .ok made) :
    ∃ settings, make settings = .ok made := by
  cases read with
  | error e => cases h
  | ok settings => exact ⟨settings, h⟩

/-- All pools of a registry have handles below a bound. -/
def Registry.HoldsBelow (registry : Registry) (count : Nat) : Prop :=
  ∀ order, registry.get order < count

/-- A new registry has put its two pools behind all others. -/
def Registry.Adds (heap : Heap) (made : Registry × Heap) : Prop :=
  ∃ fresh : List Pool, (∀ pool ∈ fresh, pool.IsFresh) ∧ made.2 = ⟨heap.pools ++ fresh⟩ ∧
    made.1.HoldsBelow made.2.pools.length

lemma Registry.adds_of_ofSettings {heap : Heap} {settings : Settings} {made : Registry × Heap}
    (h : Registry.ofSettings heap settings = .ok made) : Adds heap made := by
  rw [ofSettings_eq] at h
  split at h
  case isTrue => cases h
  case isFalse hzero =>
    obtain rfl := Except.ok.inj h
    have hpos := Nat.pos_of_ne_zero hzero
    refine ⟨[.fresh .big _, .fresh .little _], ?_, rfl, fun order => ?_⟩
    · simpa using ⟨⟨_, _, hpos, rfl⟩, ⟨_, _, hpos, rfl⟩⟩
    · cases order <;> simp [get, PerOrder.get]

/-! ### Steps -/

namespace Session

/-- Fresh pools have been added and names changed, and no registry has lost its pools. -/
structure Extends (s t : Session) : Prop where
  eq : ∃ fresh : List Pool, (∀ pool ∈ fresh, pool.IsFresh) ∧
    t = { s with
      heap := ⟨s.heap.pools ++ fresh⟩
      pools := t.pools
      registries := t.registries }
  registries : s.registries.All (·.HoldsBelow s.heap.pools.length) →
    t.registries.All (·.HoldsBelow t.heap.pools.length)

namespace Extends
variable {s t : Session}

lemma names {registries : Names Registry}
    (h : ∀ P : Registry → Prop, s.registries.All P → registries.All P) (pools : Names Handle) :
    s.Extends { s with pools, registries } where
  eq := ⟨[], by simp, by simp⟩
  registries := h _

lemma refl (s : Session) : s.Extends s := names (fun _ h => h) s.pools

lemma ask (h : s.Extends t) {α : Type} {found : Option α} {name : String} {a : α → Answer} :
    s.Extends (t.ask found name a).session := by
  cases found <;> exact h

lemma need {α : Type} {found : Option α} {name : String} {next : α → Turn}
    (h : ∀ object, found = some object → s.Extends (next object).session) :
    s.Extends (s.need found name next).session := by
  cases found with
  | none => exact refl s
  | some object => exact h object rfl

lemma keepPool {made : Except Error Pool} (h : ∀ pool, made = .ok pool → pool.IsFresh)
    (name : String) : s.Extends (s.keepPool name made).session := by
  cases made with
  | error e => exact refl s
  | ok pool =>
    -- Handles below the old number of pools are below the new one.
    refine ⟨⟨[pool], by simpa using h pool rfl, rfl⟩, fun hreg entry hentry order => ?_⟩
    exact Nat.lt_of_lt_of_le (hreg entry hentry order) (by simp [Session.keepPool, Heap.add,
      Turn.answer])

lemma hold (name : String) (handle : Handle) :
    s.Extends (RegistryCommand.hold s name handle).session :=
  .ask (names (fun _ h => h) _)

lemma keep {registry : Registry} (hholds : registry.HoldsBelow s.heap.pools.length)
    (name : String) : s.Extends (RegistryCommand.keep s name registry).session :=
  .ask ⟨⟨[], by simp, by simp⟩, fun h => h.insert name hholds⟩

lemma keepNew {made : Except Error (Registry × Heap)}
    (h : ∀ new, made = .ok new → Registry.Adds s.heap new) (name : String) :
    s.Extends (RegistryCommand.keepNew s name made).session := by
  cases made with
  | error e => exact refl s
  | ok new =>
    obtain ⟨registry, heap⟩ := new
    obtain ⟨fresh, hfresh, rfl, hholds⟩ := h _ rfl
    refine .ask ⟨⟨fresh, hfresh, rfl⟩, fun hreg => ?_⟩
    refine Names.All.insert (fun entry hentry order => ?_) name hholds
    exact Nat.lt_of_lt_of_le (hreg entry hentry order) (by simp)

end Extends
end Session
end BytePool
