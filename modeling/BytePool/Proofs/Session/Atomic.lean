import BytePool.Proofs.Session.Refusal

/-!
# Steps that are refused

Every step of a session is refused in exactly one case, which its objects and arguments show, and a
step that is refused leaves the whole session as it was.
-/
namespace BytePool

namespace Heap

/-- To put the pool that is there in its own place changes nothing. -/
theorem set_of_get? {heap : Heap} {handle : Handle} {pool : Pool}
    (h : heap.get? handle = some pool) : heap.set handle pool = heap := by
  obtain ⟨pools⟩ := heap
  obtain ⟨hlt, rfl⟩ := List.getElem?_eq_some_iff.mp h
  simp [set]

end Heap

namespace Session

/-- The step is refused in exactly this case, and then leaves the session as it was. -/
structure Turn.RefusedIff (turn : Turn) (s : Session) (P : Prop) : Prop where
  refused_iff : (∃ e, turn.outcome = .error (.failed (.refused e))) ↔ P
  session_eq : P → turn.session = s
  events_eq : P → turn.events = []

namespace Turn.RefusedIff
variable {s t : Session} {turn : Turn} {P Q : Prop}

lemma never (h : ∀ e, turn.outcome ≠ .error (.failed (.refused e))) : turn.RefusedIff s False where
  refused_iff := ⟨fun ⟨e, he⟩ => h e he, False.elim⟩
  session_eq := False.elim
  events_eq := False.elim

lemma of_iff (h : turn.RefusedIff s P) (hq : P ↔ Q) : turn.RefusedIff s Q := propext hq ▸ h

lemma answer (a : Answer) : (Turn.answer a t).RefusedIff s False := .never fun _ => nofun

lemma missing (name : String) : (Turn.missing name t).RefusedIff s False := .never nofun

lemma refuse (e : Error) : (Turn.refuse e s).RefusedIff s True where
  refused_iff := ⟨fun _ => trivial, fun _ => ⟨e, rfl⟩⟩
  session_eq _ := rfl
  events_eq _ := rfl

lemma ofReply {σ α : Type} {reply : Reply σ α} {state : σ} {keep : σ → Session}
    (h : reply.RefusedIff state P) (hkeep : P → keep state = s)
    (next : Session → α → Answer × Session) :
    (Turn.ofReply reply keep next).RefusedIff s P where
  refused_iff := by
    rw [← h.refused_iff]
    cases ho : reply.outcome <;> simp [Turn.ofReply, ho]
  session_eq hp := by
    obtain ⟨e, he⟩ := h.refused_iff.mpr hp
    simp [Turn.ofReply, he, h.state_eq hp, hkeep hp]
  events_eq hp := by
    obtain ⟨e, he⟩ := h.refused_iff.mpr hp
    simp [Turn.ofReply, he, h.events_eq hp]

/-- A step about an object is refused if the object refuses it; a name that holds none is reported
in another way. -/
lemma need {α : Type} {found : Option α} {name : String} {next : α → Turn} {R : α → Prop}
    (h : ∀ object, found = some object → (next object).RefusedIff s (R object)) :
    (t.need found name next).RefusedIff s (∃ object, found = some object ∧ R object) := by
  cases found with
  | none => exact (missing name).of_iff (by simp)
  | some object => exact (h object rfl).of_iff (by simp)

lemma need_never {α : Type} {found : Option α} {name : String} {next : α → Turn}
    (h : ∀ object, (next object).RefusedIff s False) :
    (t.need found name next).RefusedIff s False :=
  (need fun object _ => h object).of_iff (by simp)

lemma ask {α : Type} {found : Option α} {name : String} {a : α → Answer} :
    (t.ask found name a).RefusedIff s False :=
  need_never fun object => answer (a object)

lemma use {source : Source} {next : Session → List UInt8 → Turn}
    (h : ∀ t bytes, (next t bytes).RefusedIff s False) :
    (source.use t next).RefusedIff s False := by
  cases source with
  | data bytes => exact h t bytes
  | chunk name => exact need_never fun chunk => h _ chunk.bytes
  | frozen name => exact need_never fun bytes => h t bytes

end Turn.RefusedIff

open Turn (RefusedIff)

/-! ### Pools and registries -/

/-- What a pool command is refused for: no room in the slabs of a new pool, or a range that exceeds
its source. -/
def PoolCommand.IsRefused (s : Session) : PoolCommand → Prop
  | .new _ slabCapacity _ => slabCapacity = 0
  | .ofSettings settings _ => settings.slabCapacity = 0
  | .ofToml document _ =>
    ∀ settings, Settings.ofToml document = .ok settings → settings.slabCapacity = 0
  | .request on asked _ => ∃ pool, s.pool? on = some pool ∧ asked.exceeds = true
  | _ => False

/-- What a registry command is refused for: no room in the slabs of new pools, or an order that is
missing. -/
def RegistryCommand.IsRefused (s : Session) : RegistryCommand → Prop
  | .new slabCapacity _ => slabCapacity = 0
  | .ofSettings settings _ => settings.slabCapacity = 0
  | .ofToml document _ =>
    ∀ settings, Settings.ofToml document = .ok settings → settings.slabCapacity = 0
  | .resolve on order _ => ∃ registry, s.registries.find? on = some registry ∧ order = none
  | _ => False

end Session

theorem Pool.ofSettings_eq_error_iff (settings : Settings) :
    (∃ e, Pool.ofSettings settings = .error e) ↔ settings.slabCapacity = 0 := by
  rw [ofSettings_eq]
  split <;> simp [*]

theorem Registry.ofSettings_eq_error_iff (heap : Heap) (settings : Settings) :
    (∃ e, Registry.ofSettings heap settings = .error e) ↔ settings.slabCapacity = 0 := by
  rw [ofSettings_eq]
  split <;> simp [*]

theorem Registry.new_eq_error_iff (heap : Heap) (slabCapacity : Nat) :
    (∃ e, Registry.new heap slabCapacity = .error e) ↔ slabCapacity = 0 := by
  rw [new_eq]
  exact ofSettings_eq_error_iff heap { slabCapacity }

/-- A document gives nothing if it gives no settings, or settings that give nothing. -/
lemma Settings.bind_eq_error_iff {α : Type} {read : Except Error Settings}
    {make : Settings → Except Error α}
    (h : ∀ settings, (∃ e, make settings = .error e) ↔ settings.slabCapacity = 0) :
    (∃ e, read.bind make = .error e) ↔
      ∀ settings, read = .ok settings → settings.slabCapacity = 0 := by
  cases read with
  | error e => simp [Except.bind]
  | ok settings => simpa [Except.bind] using h settings

namespace Session
open Turn (RefusedIff)

lemma keepPool_refusedIff (s : Session) (name : String) (made : Except Error Pool) :
    (s.keepPool name made).RefusedIff s (∃ e, made = .error e) := by
  cases made with
  | error e => exact (RefusedIff.refuse e).of_iff (by simp)
  | ok pool => exact (RefusedIff.answer _).of_iff (by simp)

lemma get?_of_handled? {s : Session} {name : String} {handle : Handle} {pool : Pool}
    (h : s.handled? name = some (handle, pool)) : s.heap.get? handle = some pool := by
  simp only [handled?, Option.bind_eq_bind, Option.bind_eq_some_iff, Option.pure_def,
    Option.some.injEq, Prod.mk.injEq] at h
  obtain ⟨_, -, _, hp, rfl, rfl⟩ := h
  exact hp

lemma exists_pool?_iff (s : Session) (name : String) (P : Prop) :
    (∃ pool, s.pool? name = some pool ∧ P) ↔ ∃ held, s.handled? name = some held ∧ P := by
  unfold pool?
  cases s.handled? name <;> simp

namespace PoolCommand

theorem step_refusedIff (s : Session) (command : PoolCommand) :
    (command.step s).RefusedIff s (command.IsRefused s) := by
  cases command with
  | new order slabCapacity name =>
    exact (s.keepPool_refusedIff name _).of_iff (Pool.ofSettings_eq_error_iff _)
  | standard name | ofOrder _ name => exact .answer _
  | ofSettings settings name =>
    exact (s.keepPool_refusedIff name _).of_iff (Pool.ofSettings_eq_error_iff settings)
  | ofToml document name =>
    exact (s.keepPool_refusedIff name _).of_iff
      (Settings.bind_eq_error_iff Pool.ofSettings_eq_error_iff)
  | same on other => exact .need_never fun _ => .ask
  | drop on => exact .answer _
  | request on asked name =>
    refine RefusedIff.of_iff (.need fun (handle, pool) h => ?_) (s.exists_pool?_iff on _).symm
    refine .ofReply (Pool.serve_refusedIff pool asked) ?_ _
    exact fun _ => by rw [Heap.set_of_get? (get?_of_handled? h)]
  | adoptRegion on region name =>
    refine .need_never fun (handle, pool) => .need_never fun given => ?_
    exact .ofReply (pool.adoptRegion_refusedIff given) False.elim _
  | copyRegion on region name =>
    refine .need_never fun (handle, pool) => .need_never fun given => ?_
    exact .ofReply (pool.copyRegion_refusedIff given) False.elim _
  | info on | stats on | snapshot on order | text on | statsText on => exact .ask

end PoolCommand

namespace RegistryCommand

lemma keep_refusedIff (s t : Session) (name : String) (registry : Registry) :
    (keep t name registry).RefusedIff s False :=
  .ask

lemma hold_refusedIff (s t : Session) (name : String) (handle : Handle) :
    (hold t name handle).RefusedIff s False :=
  .ask

lemma keepNew_refusedIff (s : Session) (name : String) (made : Except Error (Registry × Heap)) :
    (keepNew s name made).RefusedIff s (∃ e, made = .error e) := by
  cases made with
  | error e => exact (RefusedIff.refuse e).of_iff (by simp)
  | ok made => exact (keep_refusedIff s _ name made.1).of_iff (by simp)

theorem step_refusedIff (s : Session) (command : RegistryCommand) :
    (command.step s).RefusedIff s (command.IsRefused s) := by
  cases command with
  | new slabCapacity name =>
    exact (keepNew_refusedIff s name _).of_iff (Registry.new_eq_error_iff s.heap slabCapacity)
  | standard name => exact keep_refusedIff ..
  | ofSettings settings name =>
    exact (keepNew_refusedIff s name _).of_iff (Registry.ofSettings_eq_error_iff s.heap settings)
  | ofToml document name =>
    exact (keepNew_refusedIff s name _).of_iff
      (Settings.bind_eq_error_iff (Registry.ofSettings_eq_error_iff s.heap))
  | clone on name => exact .need_never fun registry => keep_refusedIff ..
  | get on order name | preferred on name => exact .need_never fun registry => hold_refusedIff ..
  | resolve on order name =>
    refine .need fun registry _ => ?_
    cases order with
    | none => exact (RefusedIff.refuse _).of_iff (by simp)
    | some order => exact (hold_refusedIff s s name _).of_iff (by simp)
  | drop on => exact .answer _
  | info on | text on => exact .ask

end RegistryCommand

/-! ### Regions and buffers -/

/-- What a region command is refused for: a position outside the region, or no mark to go back
to. -/
def RegionCommand.IsRefused (s : Session) : RegionCommand → Prop
  | .setPosition on position =>
    ∃ region, s.regions.find? on = some region ∧ region.length < position
  | .reset on => ∃ region, s.regions.find? on = some region ∧ region.mark = none
  | _ => False

theorem RegionCommand.step_refusedIff (s : Session) (command : RegionCommand) :
    (command.step s).RefusedIff s (command.IsRefused s) := by
  have hput {on : String} {region : Region} (h : s.regions.find? on = some region) :
      put s on region = s := by rw [put, Names.insert_of_find? h]
  cases command with
  | new storage order source name =>
    unfold step
    exact .use fun t bytes => .answer _
  | setPosition on position =>
    refine .need fun region h => ?_
    exact .ofReply (region.setPosition_refusedIff position) (fun _ => hput h) _
  | setMark on => exact .need_never fun region => .answer _
  | reset on => exact .need fun region h => .ofReply region.reset_refusedIff (fun _ => hput h) _
  | info on | readable on | text on => exact .ask

/-- What a buffer command is refused for. -/
def BufferCommand.IsRefused (s : Session) : BufferCommand → Prop
  | .perform on operation => ∃ b, s.buffers.find? on = some b ∧ b.Refuses operation
  | _ => False

theorem BufferCommand.step_refusedIff (s : Session) (command : BufferCommand) :
    (command.step s).RefusedIff s (command.IsRefused s) := by
  cases command with
  | empty name | drop on => exact .answer _
  | wrap order source name =>
    unfold step
    exact .use fun t bytes => .answer _
  | perform on operation =>
    refine .need fun b h => .ofReply (b.perform_refusedIff operation) (fun _ => ?_) _
    rw [putBuffer, Names.insert_of_find? h]
  | freeze on name => exact .need_never fun b => .answer _
  | info on | bytes on | text on => exact .ask

/-! ### Arenas and slabs -/

/-- What an arena command is refused for: no room in its slabs, or a slice that is empty or larger
than a slab. -/
def ArenaCommand.IsRefused (s : Session) : ArenaCommand → Prop
  | .new _ slabCapacity _ => slabCapacity = 0
  | .allocate on capacity _ =>
    ∃ arena, s.arenas.find? on = some arena ∧ (capacity = 0 ∨ arena.slabCapacity < capacity)
  | _ => False

theorem ArenaCommand.step_refusedIff (s : Session) (command : ArenaCommand) :
    (command.step s).RefusedIff s (command.IsRefused s) := by
  cases command with
  | new order slabCapacity name =>
    by_cases h : slabCapacity = 0
    · simp only [step, Arena.new, if_pos h]
      exact (RefusedIff.refuse _).of_iff (iff_of_true trivial h)
    · simp only [step, Arena.new, if_neg h]
      exact (RefusedIff.answer _).of_iff (iff_of_false id h)
  | allocate on capacity name =>
    refine .need fun arena h => .ofReply (arena.allocate_refusedIff capacity) (fun _ => ?_) _
    rw [Names.insert_of_find? h]
  | drop on => exact .answer _
  | snapshot on | text on => exact .ask

theorem SlabCommand.step_refusedIff (s : Session) (command : SlabCommand) :
    (command.step s).RefusedIff s False := by
  cases command with
  | allocate id capacity name =>
    refine .never fun e => ?_
    by_cases h : maxAllocation < capacity <;> simp [step, Slab.allocate, h, Turn.answer]
  | carve on length name =>
    exact .need_never fun slab => .ofReply (slab.carve?_refusedIff length) False.elim _
  | drop on => exact .answer _
  | text on => exact .ask

/-- A slab without room gives no chunk, and one with room gives one. -/
lemma SlabCommand.step_carve {s : Session} {on : String} {slab : Slab}
    (h : s.slabs.find? on = some slab) (length : Nat) (name : String) :
    (slab.remaining < length → step s (.carve on length name) = ⟨.ok .nothing, s, []⟩) ∧
      (length ≤ slab.remaining →
        (step s (.carve on length name)).outcome = .ok (.chunk (slab.carve length).1)) := by
  constructor
  · intro hlt
    simp [step, need, h, Slab.carve?_of_remaining_lt hlt, Turn.ofReply, Reply.done,
      Names.insert_of_find? h]
  · intro hle
    simp [step, need, h, Slab.carve?, hle, Turn.ofReply, Reply.done]

/-! ### All steps -/

/-- What a command is refused for. -/
def Command.IsRefused (s : Session) : Command → Prop
  | .pool command => command.IsRefused s
  | .registry command => command.IsRefused s
  | .region command => command.IsRefused s
  | .arena command => command.IsRefused s
  | .slab _ => False
  | .buffer command => command.IsRefused s

lemma step_refusedIff (s : Session) (command : Command) :
    (s.step command).RefusedIff s (command.IsRefused s) := by
  cases command with
  | pool command => exact command.step_refusedIff s
  | registry command => exact command.step_refusedIff s
  | region command => exact command.step_refusedIff s
  | arena command => exact command.step_refusedIff s
  | slab command => exact command.step_refusedIff s
  | buffer command => exact command.step_refusedIff s

/-! ### Runs -/

def Turn.isRefused (turn : Turn) : Bool :=
  match turn.outcome with
  | .error (.failed (.refused _)) => true
  | _ => false

lemma Turn.isRefused_iff (turn : Turn) :
    turn.isRefused = true ↔ ∃ e, turn.outcome = .error (.failed (.refused e)) := by
  unfold isRefused
  split <;> simp_all

/-- The commands of a run that are not refused. -/
def accepted (s : Session) : List Command → List Command
  | [] => []
  | command :: commands =>
    let turn := s.step command
    let later := turn.session.accepted commands
    if turn.isRefused then later else command :: later

/-- No later step can tell that a refused one was ever asked for. -/
lemma run_accepted (s : Session) (commands : List Command) :
    s.run (s.accepted commands) = (s.run commands).filter (!·.isRefused) := by
  -- A refused first step leaves the session, so what follows runs from the same one.
  induction commands generalizing s with
  | nil => rfl
  | cons command commands ih =>
    cases h : (s.step command).isRefused with
    | true =>
      have hstep := s.step_refusedIff command
      have hsame := hstep.session_eq (hstep.refused_iff.mp ((Turn.isRefused_iff _).mp h))
      simp [accepted, run, h, hsame, ih]
    | false => simp [accepted, run, h, ih]

/-- A step is refused in exactly the case that its objects and arguments show, and a refused step
leaves the session as it was and sends nothing, so that a run goes on as if without it. A slab that
has no room for a chunk does the same. A region has no mark to go back to if none was set since it
was made, or if its position went to a place before the last one since. -/
theorem refused_step_unchanged (s : Session) :
    (∀ command : Command, (s.step command).RefusedIff s (command.IsRefused s)) ∧
      (∀ commands, s.run (s.accepted commands) = (s.run commands).filter (!·.isRefused)) ∧
      (∀ on slab length name, s.slabs.find? on = some slab →
        let turn := s.step (.slab (.carve on length name))
        (slab.remaining < length → turn = ⟨.ok .nothing, s, []⟩) ∧
          (length ≤ slab.remaining → turn.outcome = .ok (.chunk (slab.carve length).1))) ∧
      ∀ storage order bytes moves,
        let region : Region := { storage, order, bytes }
        (region.moveAll moves).reset.RefusedIff (region.moveAll moves)
          (∀ mark, ¬region.MarkedAt moves mark) := by
  refine ⟨s.step_refusedIff, s.run_accepted, ?_, ?_⟩
  · intro on slab length name h
    exact SlabCommand.step_carve h length name
  · intro storage order bytes moves region
    refine (region.moveAll moves).reset_refusedIff.of_iff ?_
    simp only [← region.mark_moveAll moves rfl, Option.eq_none_iff_forall_ne_some, ne_eq]

/-- An arena with slabs of four bytes refuses five, and a slab with two bytes left has no chunk of
three. -/
theorem refused_step_unchanged_of_five :
    let s : Session :=
      { arenas := ⟨[("arena", { order := .big, slabCapacity := 4 })]⟩
        slabs := ⟨[("slab", ⟨1, 3, .zeroed 2⟩)]⟩ }
    (s.step (.arena (.allocate "arena" 5 "b"))).session = s ∧
      s.step (.slab (.carve "slab" 3 "chunk")) = ⟨.ok .nothing, s, []⟩ := by
  intro s
  obtain ⟨hstep, -, hcarve, -⟩ := refused_step_unchanged s
  refine ⟨(hstep (.arena (.allocate "arena" 5 "b"))).session_eq ?_, ?_⟩
  · exact ⟨_, rfl, .inr (by decide)⟩
  · exact (hcarve "slab" ⟨1, 3, .zeroed 2⟩ 3 "chunk" rfl).1 (by decide)

end Session
end BytePool
