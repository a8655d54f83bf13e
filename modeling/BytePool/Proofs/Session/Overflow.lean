import BytePool.Proofs.Pool.Serve
import BytePool.Session.Command

/-!
# Memory that cannot be had

One allocation has no more than so many bytes. A step that asks for more at once overflows: a large
request for memory of its own, a request that an arena needs a new slab for, or a slab on request.
No other step does.
-/
namespace BytePool

/-! ### Arenas and pools -/

/-- The arena would have to make a slab that is too large. -/
def Arena.Overflows (arena : Arena) (length : Nat) : Prop :=
  arena.fitting length = none ∧ maxAllocation < arena.slabCapacity

/-- The request is too large itself, or it is smaller than a slab and its arena would have to make
one that is too large. -/
def Pool.Overflows (pool : Pool) (order : ByteOrder) (capacity : Nat) : Prop :=
  pool.slabCapacity ≤ capacity ∧ maxAllocation < capacity ∨
    0 < capacity ∧ capacity < pool.slabCapacity ∧ (pool.arenas.get order).Overflows capacity

/-- The request gets as far as to ask for memory that cannot be had. -/
def Pool.OverflowsFor (pool : Pool) (request : Pool.Request) : Prop :=
  request.exceeds = false ∧ request.handsOver = false ∧
    pool.Overflows (request.order pool.defaultOrder) request.size

theorem Slab.allocate_eq_overflow_iff (id capacity : Nat) :
    Slab.allocate id capacity = .error .capacityOverflow ↔ maxAllocation < capacity := by
  unfold Slab.allocate
  split <;> simp_all

namespace Arena
variable (arena : Arena) (length : Nat)

theorem carve_overflow_iff :
    (arena.carve length).outcome = .error .capacityOverflow ↔ arena.Overflows length := by
  cases hfit : arena.fitting length with
  | some slab => simp [carve_of_fitting hfit, Overflows, hfit, issue, Reply.done, Reply.emit]
  | none =>
    by_cases hmax : arena.slabCapacity ≤ maxAllocation
    · simp [carve_of_install hfit hmax, Overflows, issue, Reply.done, Reply.emit, hmax]
    · simp [carve_of_overflow hfit (Nat.lt_of_not_le hmax), Overflows, hfit, Reply.overflow,
        Nat.lt_of_not_le hmax]

theorem allocate_overflow_iff :
    (arena.allocate length).outcome = .error .capacityOverflow ↔
      0 < length ∧ length ≤ arena.slabCapacity ∧ arena.Overflows length := by
  unfold allocate
  by_cases hout : length = 0 ∨ arena.slabCapacity < length
  · rw [if_pos hout]
    exact iff_of_false nofun fun ⟨hpos, hle, _⟩ => by omega
  · rw [if_neg hout, carve_overflow_iff]
    exact ⟨fun h => ⟨by omega, by omega, h⟩, fun h => h.2.2⟩

end Arena

namespace Pool
variable (pool : Pool)

lemma buffer_overflow_iff (order : ByteOrder) (capacity : Nat) :
    (pool.buffer order capacity).outcome = .error .capacityOverflow ↔
      pool.Overflows order capacity := by
  obtain rfl | hpos := Nat.eq_zero_or_pos capacity
  · rw [buffer_zero]
    exact iff_of_false nofun fun h => by simp [Overflows] at h
  by_cases hle : pool.slabCapacity ≤ capacity
  · rw [buffer_of_slabCapacity_le order hpos hle, (dedicated_spec pool order capacity).2]
    simp [Overflows, hle, Nat.not_lt.mpr hle]
  · have hcarved : (pool.carved order capacity).outcome =
        ((pool.arenas.get order).carve capacity).outcome.map Buffer.clear := rfl
    have hiff := (pool.arenas.get order).carve_overflow_iff capacity
    rw [buffer_of_lt_slabCapacity order hpos (Nat.lt_of_not_le hle), hcarved]
    cases ho : ((pool.arenas.get order).carve capacity).outcome <;>
      simp_all [Overflows, Except.map]

theorem serve_overflow_iff (request : Request) :
    (pool.serve request).outcome = .error .capacityOverflow ↔ pool.OverflowsFor request := by
  by_cases hex : request.exceeds = true
  · obtain ⟨e, hserve⟩ := serve_of_exceeds pool request hex
    rw [hserve]
    exact iff_of_false nofun fun ⟨hin, _⟩ => by simp [hex] at hin
  by_cases hover : request.handsOver = true
  · obtain ⟨region, spare, -, -, hserve⟩ := serve_of_handsOver pool request hover
    rw [hserve]
    exact iff_of_false nofun fun ⟨_, hcopy, _⟩ => by simp [hover] at hcopy
  -- What fills the buffer never fails, so all is decided by the request for the buffer.
  rw [Bool.not_eq_true] at hex hover
  have hiff := pool.buffer_overflow_iff (request.order pool.defaultOrder) request.size
  rw [serve_eq_bind pool request hex hover, OverflowsFor, and_iff_right hex, and_iff_right hover,
    ← hiff]
  cases ho : (pool.buffer (request.order pool.defaultOrder) request.size).outcome with
  | error failure => rw [Reply.bind_of_error ho]
  | ok b =>
    obtain ⟨filled, hfilled, -, -⟩ := outcome_finish request
      (pool.buffer (request.order pool.defaultOrder) request.size).state b
    rw [Reply.bind_of_ok ho]
    simp [hfilled]

end Pool

/-! ### Other objects -/

lemma Region.setPosition_ne_overflow (region : Region) (position : Nat) :
    (region.setPosition position).outcome ≠ .error .capacityOverflow := by
  unfold setPosition
  split <;> nofun

lemma Region.reset_ne_overflow (region : Region) :
    region.reset.outcome ≠ .error .capacityOverflow := by
  unfold reset
  split <;> nofun

lemma Reply.map_ne_overflow {σ α β : Type} {reply : Reply σ α}
    (h : reply.outcome ≠ .error .capacityOverflow) (f : α → β) :
    (reply.map f).outcome ≠ .error .capacityOverflow := by
  cases ho : reply.outcome <;> simp_all [Reply.map, Except.map]

lemma Buffer.perform_ne_overflow (b : Buffer) (operation : Operation) :
    (b.perform operation).outcome ≠ .error .capacityOverflow := by
  have hput (name : String) (bytes : List UInt8) :
      (b.put name bytes).outcome ≠ .error .capacityOverflow := by
    unfold put
    split <;> nofun
  have htake (length : Nat) : (b.take length).outcome ≠ .error .capacityOverflow := by
    unfold take
    split <;> nofun
  cases operation with
  | clear => nofun
  | putSlice bytes =>
    refine Reply.map_ne_overflow ?_ _
    unfold putSlice
    split
    · nofun
    · exact hput _ bytes
  | putNumber type value => exact Reply.map_ne_overflow (hput _ _) _
  | getNumber type => exact Reply.map_ne_overflow (Reply.map_ne_overflow (htake _) _) _
  | readInto length => exact Reply.map_ne_overflow (htake length) _
  | skip length => exact Reply.map_ne_overflow (Reply.map_ne_overflow (htake length) _) _

lemma Slab.carve?_ne_overflow (slab : Slab) (length : Nat) :
    (slab.carve? length).outcome ≠ .error .capacityOverflow := by
  unfold carve?
  split <;> nofun

/-! ### Turns -/

namespace Session

/-- The step asks for memory that cannot be had in exactly this case. -/
def Turn.OverflowsIff (turn : Turn) (P : Prop) : Prop :=
  turn.outcome = .error (.failed .capacityOverflow) ↔ P

namespace Turn.OverflowsIff
variable {s t : Session} {turn : Turn}

lemma never (h : turn.outcome ≠ .error (.failed .capacityOverflow)) : turn.OverflowsIff False :=
  iff_of_false h id

lemma answer (a : Answer) : (Turn.answer a t).OverflowsIff False := .never nofun

lemma refuse (e : Error) : (Turn.refuse e t).OverflowsIff False := .never nofun

lemma need {α : Type} {found : Option α} {name : String} {next : α → Turn} {P : α → Prop}
    (h : ∀ object, (next object).OverflowsIff (P object)) :
    (t.need found name next).OverflowsIff (∃ object, found = some object ∧ P object) := by
  cases found with
  | none => exact iff_of_false nofun (by simp)
  | some object => exact (h object).trans (by simp)

lemma need_never {α : Type} {found : Option α} {name : String} {next : α → Turn}
    (h : ∀ object, (next object).OverflowsIff False) :
    (t.need found name next).OverflowsIff False :=
  (need h).trans (by simp)

lemma ask {α : Type} {found : Option α} {name : String} {a : α → Answer} :
    (t.ask found name a).OverflowsIff False :=
  need_never fun object => answer (a object)

lemma use {source : Source} {next : Session → List UInt8 → Turn}
    (h : ∀ t bytes, (next t bytes).OverflowsIff False) :
    (source.use t next).OverflowsIff False := by
  cases source with
  | data bytes => exact h t bytes
  | chunk name => exact need_never fun chunk => h _ chunk.bytes
  | frozen name => exact need_never fun bytes => h t bytes

lemma ofReply {σ α : Type} {reply : Reply σ α} {P : Prop}
    (h : reply.outcome = .error .capacityOverflow ↔ P) {keep : σ → Session}
    {next : Session → α → Answer × Session} : (Turn.ofReply reply keep next).OverflowsIff P := by
  unfold OverflowsIff Turn.ofReply
  rw [← h]
  cases reply.outcome <;> simp

lemma ofReply_never {σ α : Type} {reply : Reply σ α}
    (h : reply.outcome ≠ .error .capacityOverflow) {keep : σ → Session}
    {next : Session → α → Answer × Session} : (Turn.ofReply reply keep next).OverflowsIff False :=
  ofReply (iff_of_false h id)

end Turn.OverflowsIff

open Turn (OverflowsIff)

/-! ### Steps -/

/-- When a command asks for memory that cannot be had. -/
def Command.Overflows (s : Session) : Command → Prop
  | .pool (.request on asked _) => ∃ held, s.handled? on = some held ∧ held.2.OverflowsFor asked
  | .pool (.adoptRegion on name _) =>
    ∃ held, s.handled? on = some held ∧ ∃ given, s.regions.find? name = some given ∧
      held.2.OverflowsFor (.adoptRegion given)
  | .pool (.copyRegion on name _) =>
    ∃ held, s.handled? on = some held ∧ ∃ given, s.regions.find? name = some given ∧
      held.2.OverflowsFor (.copyRegion given)
  | .arena (.allocate on capacity _) =>
    ∃ found, s.arenas.find? on = some found ∧
      0 < capacity ∧ capacity ≤ found.slabCapacity ∧ found.Overflows capacity
  | .slab (.allocate _ capacity _) => maxAllocation < capacity
  | _ => False

variable (s : Session)

lemma keepPool_overflowsIff (name : String) (made : Except Error Pool) :
    (s.keepPool name made).OverflowsIff False := by
  cases made with
  | error e => exact .refuse e
  | ok pool => exact .answer _

lemma keepNew_overflowsIff (name : String) (made : Except Error (Registry × Heap)) :
    (RegistryCommand.keepNew s name made).OverflowsIff False := by
  cases made with
  | error e => exact .refuse e
  | ok made => exact .ask

lemma pool_overflowsIff (command : PoolCommand) :
    (s.step (.pool command)).OverflowsIff (Command.Overflows s (.pool command)) := by
  cases command with
  | request on asked name => exact .need fun held => .ofReply (held.2.serve_overflow_iff asked)
  | adoptRegion on region name =>
    refine .need fun held => .need fun given => .ofReply ?_
    exact held.2.serve_overflow_iff (.adoptRegion given)
  | copyRegion on region name =>
    refine .need fun held => .need fun given => .ofReply ?_
    exact held.2.serve_overflow_iff (.copyRegion given)
  | new _ _ name | standard name | ofOrder _ name | ofSettings _ name | ofToml _ name =>
    exact s.keepPool_overflowsIff name _
  | same on other => exact .need_never fun _ => .ask
  | drop on => exact .answer _
  | info on | stats on | snapshot on order | text on | statsText on => exact .ask

lemma registry_overflowsIff (command : RegistryCommand) :
    (s.step (.registry command)).OverflowsIff False := by
  cases command with
  | new _ name | standard name | ofSettings _ name | ofToml _ name =>
    exact s.keepNew_overflowsIff name _
  | clone on name | get on order name | preferred on name => exact .need_never fun registry => .ask
  | resolve on order name =>
    refine .need_never fun registry => ?_
    cases order with
    | none => exact .refuse _
    | some order => exact .ask
  | drop on => exact .answer _
  | info on | text on => exact .ask

lemma region_overflowsIff (command : RegionCommand) :
    (s.step (.region command)).OverflowsIff False := by
  cases command with
  | new storage order source name =>
    simp only [step, RegionCommand.step]
    exact .use fun t bytes => .answer _
  | setPosition on position =>
    exact .need_never fun region => .ofReply_never (region.setPosition_ne_overflow position)
  | setMark on => exact .need_never fun region => .answer _
  | reset on => exact .need_never fun region => .ofReply_never region.reset_ne_overflow
  | info on | readable on | text on => exact .ask

lemma buffer_overflowsIff (command : BufferCommand) :
    (s.step (.buffer command)).OverflowsIff False := by
  cases command with
  | empty name | drop on => exact .answer _
  | wrap order source name =>
    simp only [step, BufferCommand.step]
    exact .use fun t bytes => .answer _
  | perform on operation =>
    exact .need_never fun b => .ofReply_never (b.perform_ne_overflow operation)
  | freeze on name => exact .need_never fun b => .answer _
  | info on | bytes on | text on => exact .ask

lemma arena_overflowsIff (command : ArenaCommand) :
    (s.step (.arena command)).OverflowsIff (Command.Overflows s (.arena command)) := by
  cases command with
  | new order slabCapacity name =>
    simp only [step, ArenaCommand.step]
    split
    · exact .refuse _
    · exact .answer _
  | allocate on capacity name =>
    exact .need fun arena => .ofReply (arena.allocate_overflow_iff capacity)
  | drop on => exact .answer _
  | snapshot on | text on => exact .ask

lemma slab_overflowsIff (command : SlabCommand) :
    (s.step (.slab command)).OverflowsIff (Command.Overflows s (.slab command)) := by
  cases command with
  | allocate id capacity name =>
    have hiff := Slab.allocate_eq_overflow_iff id capacity
    simp only [OverflowsIff, step, SlabCommand.step, Command.Overflows]
    cases ho : Slab.allocate id capacity <;> simp_all [Turn.answer]
  | carve on length name =>
    exact .need_never fun slab => .ofReply_never (slab.carve?_ne_overflow length)
  | drop on => exact .answer _
  | text on => exact .ask

/-- A step overflows exactly if it asks for more than one allocation can have. -/
theorem step_overflowsIff (command : Command) :
    (s.step command).OverflowsIff (command.Overflows s) := by
  cases command with
  | pool command => exact s.pool_overflowsIff command
  | registry command => exact s.registry_overflowsIff command
  | region command => exact s.region_overflowsIff command
  | arena command => exact s.arena_overflowsIff command
  | slab command => exact s.slab_overflowsIff command
  | buffer command => exact s.buffer_overflowsIff command

end Session
end BytePool
