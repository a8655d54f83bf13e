import BytePool.Proofs.Session.Atomic

/-!
# Who holds pools

What a step does to the pools and to the names of pools and registries. A command makes something,
passes on what is held already, asks one pool for a buffer, or has no part in pools at all.
-/
namespace BytePool

namespace Session

/-! ### Commands that pools have no part in -/

/-- The pools, and who holds them. -/
structure Holdings where
  heap : Heap
  pools : Names Handle
  registries : Names Registry

def holdings (s : Session) : Holdings := ⟨s.heap, s.pools, s.registries⟩

def withHoldings (s : Session) (x : Holdings) : Session :=
  { s with heap := x.heap, pools := x.pools, registries := x.registries }

def Turn.withHoldings (turn : Turn) (x : Holdings) : Turn :=
  { turn with session := turn.session.withHoldings x }

def Command.IsLocal : Command → Prop
  | .pool _ | .registry _ => False
  | .region _ | .arena _ | .slab _ | .buffer _ => True

section Local
variable {s : Session} {x : Holdings} {α : Type} {found : Option α} {name : String}

lemma need_withHoldings {next next' : α → Turn}
    (h : ∀ object, next' object = (next object).withHoldings x) :
    (s.withHoldings x).need found name next' = (s.need found name next).withHoldings x := by
  cases found with
  | none => rfl
  | some object => exact h object

lemma ask_withHoldings {answer : α → Answer} :
    (s.withHoldings x).ask found name answer = (s.ask found name answer).withHoldings x :=
  need_withHoldings fun _ => rfl

lemma ofReply_withHoldings {σ : Type} {reply : Reply σ α} {keep keep' : σ → Session}
    {next : Session → α → Answer × Session}
    (hkeep : ∀ state, keep' state = (keep state).withHoldings x)
    (hnext : ∀ t value, next (t.withHoldings x) value =
      ((next t value).1, (next t value).2.withHoldings x)) :
    Turn.ofReply reply keep' next = (Turn.ofReply reply keep next).withHoldings x := by
  unfold Turn.ofReply
  rw [hkeep]
  split
  · rfl
  · rw [hnext]
    rfl

lemma use_withHoldings {source : Source} {next : Session → List UInt8 → Turn}
    (h : ∀ t bytes, next (t.withHoldings x) bytes = (next t bytes).withHoldings x) :
    source.use (s.withHoldings x) next = (source.use s next).withHoldings x := by
  cases source with
  | data bytes => exact h s bytes
  | chunk name =>
    exact need_withHoldings fun chunk => h { s with chunks := s.chunks.erase name } chunk.bytes
  | frozen name => exact need_withHoldings fun bytes => h s bytes

variable (s x)

lemma region_withHoldings (command : RegionCommand) :
    command.step (s.withHoldings x) = (command.step s).withHoldings x := by
  cases command with
  | new storage order source name =>
    simp only [RegionCommand.step]
    exact use_withHoldings fun _ _ => rfl
  | info | readable | text => exact ask_withHoldings
  | setPosition | reset =>
    exact need_withHoldings fun _ => ofReply_withHoldings (fun _ => rfl) fun _ _ => rfl
  | setMark on => exact need_withHoldings fun _ => rfl

lemma arena_withHoldings (command : ArenaCommand) :
    command.step (s.withHoldings x) = (command.step s).withHoldings x := by
  cases command with
  | new order slabCapacity name =>
    simp only [ArenaCommand.step]
    cases Arena.new order slabCapacity <;> rfl
  | allocate on capacity name =>
    exact need_withHoldings fun _ => ofReply_withHoldings (fun _ => rfl) fun _ _ => rfl
  | snapshot | text => exact ask_withHoldings
  | drop on => rfl

lemma slab_withHoldings (command : SlabCommand) :
    command.step (s.withHoldings x) = (command.step s).withHoldings x := by
  cases command with
  | allocate id capacity name =>
    simp only [SlabCommand.step]
    cases Slab.allocate id capacity <;> rfl
  | carve on length name =>
    refine need_withHoldings fun _ => ofReply_withHoldings (fun _ => rfl) fun _ found => ?_
    cases found <;> rfl
  | text => exact ask_withHoldings
  | drop on => rfl

lemma buffer_withHoldings (command : BufferCommand) :
    command.step (s.withHoldings x) = (command.step s).withHoldings x := by
  cases command with
  | empty | drop => rfl
  | wrap order source name =>
    simp only [BufferCommand.step]
    exact use_withHoldings fun _ _ => rfl
  | info | bytes | text => exact ask_withHoldings
  | perform on operation =>
    exact need_withHoldings fun _ => ofReply_withHoldings (fun _ => rfl) fun _ _ => rfl
  | freeze on name => exact need_withHoldings fun _ => rfl

/-- It makes no difference to them which pools there are. -/
theorem step_withHoldings {command : Command} (h : command.IsLocal) :
    (s.withHoldings x).step command = (s.step command).withHoldings x := by
  cases command with
  | pool command | registry command => cases h
  | region command => exact region_withHoldings s x command
  | arena command => exact arena_withHoldings s x command
  | slab command => exact slab_withHoldings s x command
  | buffer command => exact buffer_withHoldings s x command

lemma holdings_step {command : Command} (h : command.IsLocal) :
    (s.step command).session.holdings = s.holdings := by
  have hsame : s.step command = (s.step command).withHoldings s.holdings :=
    step_withHoldings s s.holdings h
  rw [hsame]
  rfl

end Local

/-! ### What commands make and hold -/

/-- The name for a new pool and the settings for it, as far as they can be read. -/
def PoolCommand.plan? : PoolCommand → Option (String × Except Error Settings)
  | new defaultOrder slabCapacity name => some (name, .ok { defaultOrder, slabCapacity })
  | standard name => some (name, .ok .standard)
  | ofOrder defaultOrder name => some (name, .ok { defaultOrder })
  | ofSettings settings name => some (name, .ok settings)
  | ofToml document name => some (name, Settings.ofToml document)
  | _ => none

/-- The name for a new registry and the settings for it, as far as they can be read. -/
def RegistryCommand.plan? : RegistryCommand → Option (String × Except Error Settings)
  | new slabCapacity name => some (name, .ok { slabCapacity })
  | standard name => some (name, .ok .standard)
  | ofSettings settings name => some (name, .ok settings)
  | ofToml document name => some (name, Settings.ofToml document)
  | _ => none

/-- Something is made if there is room in its slabs. -/
def granted (read : Except Error Settings) : Option Settings :=
  read.toOption.filter (0 < ·.slabCapacity)

/-- A registry, the order that one of its pools is wanted for, or none for its default, and the name
to hold it under. -/
structure Want where
  on : String
  order : Option ByteOrder
  name : String

def RegistryCommand.want? : RegistryCommand → Option Want
  | get on order name => some ⟨on, some order, name⟩
  | preferred on name => some ⟨on, none, name⟩
  | resolve on order name => order.map (⟨on, some ·, name⟩)
  | _ => none

section Plans
variable (s : Session)

lemma PoolCommand.step_of_plan {command : PoolCommand} {name : String}
    {read : Except Error Settings} (h : command.plan? = some (name, read)) :
    command.step s = s.keepPool name (read.bind Pool.ofSettings) := by
  cases command <;> cases h <;> rfl

lemma RegistryCommand.step_of_plan {command : RegistryCommand} {name : String}
    {read : Except Error Settings} (h : command.plan? = some (name, read)) :
    command.step s = keepNew s name (read.bind (Registry.ofSettings s.heap)) := by
  cases command <;> cases h
  case new =>
    rw [RegistryCommand.step, Registry.new_eq]
    rfl
  all_goals rfl

lemma RegistryCommand.step_of_want {command : RegistryCommand} {want : Want}
    (h : command.want? = some want) :
    command.step s = s.need (s.registries.find? want.on) want.on fun registry =>
      hold s want.name (registry.get (want.order.getD registry.defaultOrder)) := by
  cases command with
  | resolve on order name =>
    cases order <;> cases h
    rfl
  | get | preferred => cases h; rfl
  | _ => cases h

end Plans

lemma granted_cases (read : Except Error Settings) :
    (∃ settings, read = .ok settings ∧ 0 < settings.slabCapacity ∧
      granted read = some settings) ∨
    granted read = none ∧ (∃ e, read.bind Pool.ofSettings = .error e) ∧
      ∀ heap, ∃ e, read.bind (Registry.ofSettings heap) = .error e := by
  cases read with
  | error e => exact .inr ⟨rfl, ⟨e, rfl⟩, fun _ => ⟨e, rfl⟩⟩
  | ok settings =>
    obtain hzero | hpos := Nat.eq_zero_or_pos settings.slabCapacity
    · refine .inr ⟨?_, (Pool.ofSettings_eq_error_iff settings).mpr hzero,
        fun heap => (Registry.ofSettings_eq_error_iff heap settings).mpr hzero⟩
      simp [granted, Except.toOption, hzero]
    · refine .inl ⟨settings, rfl, hpos, ?_⟩
      simp [granted, Except.toOption, hpos]

/-! ### What commands ask for -/

@[simp] lemma session_ask (s : Session) {α : Type} (found : Option α) (name : String)
    (answer : α → Answer) : (s.ask found name answer).session = s := by
  cases found <;> rfl

lemma holdings_ofReply {σ : Type} {reply : Reply σ Buffer} {keep : σ → Session} {name : String} :
    (Turn.ofReply reply keep (keepBuffer name)).session.holdings =
      (keep reply.state).holdings := by
  unfold Turn.ofReply
  split <;> rfl

/-- The pool that is asked for a buffer, by its name, and the request to it. -/
def PoolCommand.request? (s : Session) : PoolCommand → Option (String × Pool.Request)
  | request on asked _ => some (on, asked)
  | adoptRegion on region _ => (s.regions.find? region).map (on, .adoptRegion ·)
  | copyRegion on region _ => (s.regions.find? region).map (on, .copyRegion ·)
  | _ => none

def Command.request? (s : Session) : Command → Option (String × Pool.Request)
  | .pool command => command.request? s
  | _ => none

section Serving
variable {s : Session} {command : PoolCommand} {on : String} {request : Pool.Request}
  (h : command.request? s = some (on, request))
include h

/-- A request changes the pool that it is for and no name. -/
lemma holdings_of_request {handle : Handle} {pool : Pool}
    (hheld : s.handled? on = some (handle, pool)) :
    (command.step s).session.holdings =
      { s.holdings with heap := s.heap.set handle (pool.serve request).state } := by
  cases command with
  | request on asked name =>
    cases h
    simp only [PoolCommand.step, hheld, need, holdings_ofReply]
    rfl
  | adoptRegion on region name | copyRegion on region name =>
    obtain ⟨given, hgiven, heq⟩ := Option.map_eq_some_iff.mp h
    cases heq
    simp only [PoolCommand.step, hheld, hgiven, need, holdings_ofReply]
    rfl
  | _ => cases h

lemma session_of_not_held (hheld : s.handled? on = none) : (command.step s).session = s := by
  cases command with
  | request on asked name =>
    cases h
    simp only [PoolCommand.step, hheld, need]
    rfl
  | adoptRegion on region name | copyRegion on region name =>
    obtain ⟨given, hgiven, heq⟩ := Option.map_eq_some_iff.mp h
    cases heq
    simp only [PoolCommand.step, hheld, need]
    rfl
  | _ => cases h

end Serving

/-- A pool command makes a pool, gives up a name, asks a pool for a buffer or changes nothing. -/
lemma PoolCommand.step_cases (s : Session) (command : PoolCommand) :
    (∃ name read, command.plan? = some (name, read)) ∨ (∃ on, command = .drop on) ∨
      (∃ on request handle pool, command.request? s = some (on, request) ∧
        s.handled? on = some (handle, pool)) ∨
      command.plan? = none ∧ (∀ on, command ≠ .drop on) ∧ (command.step s).session = s := by
  -- What is asked of a pool that nobody holds, or for a region that is not there, changes nothing.
  cases hrequest : command.request? s with
  | some target =>
    obtain ⟨on, request⟩ := target
    cases hheld : s.handled? on with
    | some held => exact .inr (.inr (.inl ⟨on, request, held.1, held.2, rfl, hheld⟩))
    | none =>
      refine .inr (.inr (.inr ⟨?_, ?_, session_of_not_held hrequest hheld⟩))
      · cases command <;> first | rfl | cases hrequest
      · rintro on rfl
        cases hrequest
  | none =>
    cases command with
    | new | standard | ofOrder | ofSettings | ofToml => exact .inl ⟨_, _, rfl⟩
    | drop on => exact .inr (.inl ⟨on, rfl⟩)
    | info | stats | snapshot | text | statsText =>
      exact .inr (.inr (.inr ⟨rfl, by rintro _ ⟨⟩, session_ask ..⟩))
    | same on other =>
      refine .inr (.inr (.inr ⟨rfl, by rintro _ ⟨⟩, ?_⟩))
      rw [step]
      cases s.pools.find? on with
      | none => rfl
      | some one => exact session_ask ..
    | request on asked name => cases hrequest
    | adoptRegion on region name | copyRegion on region name =>
      have hregion := Option.map_eq_none_iff.mp hrequest
      refine .inr (.inr (.inr ⟨rfl, by rintro _ ⟨⟩, ?_⟩))
      rw [step, hregion]
      cases s.handled? on <;> rfl

section Apart
variable {s : Session}

lemma find?_of_handled? {name : String} {handle : Handle} {pool : Pool}
    (h : s.handled? name = some (handle, pool)) : s.pools.find? name = some handle := by
  simp only [handled?, Option.bind_eq_bind, Option.bind_eq_some_iff, Option.pure_def,
    Option.some.injEq, Prod.mk.injEq] at h
  obtain ⟨_, hfind, _, -, rfl, -⟩ := h
  exact hfind

lemma handled?_of_get? {name : String} {handle : Handle} {pool : Pool}
    (hfind : s.pools.find? name = some handle) (hget : s.heap.get? handle = some pool) :
    s.handled? name = some (handle, pool) := by
  simp [handled?, hfind, hget]

/-- Registries bring new pools and touch no old one. -/
lemma RegistryCommand.heap_step (s : Session) (command : RegistryCommand) :
    ∃ more, (command.step s).session.heap = ⟨s.heap.pools ++ more⟩ := by
  have hsame {t : Session} (h : t.heap = s.heap) : ∃ more, t.heap = ⟨s.heap.pools ++ more⟩ :=
    ⟨[], by rw [h, List.append_nil]⟩
  have hneed {α : Type} {found : Option α} {name : String} {next : α → Turn}
      (h : ∀ object, (next object).session.heap = s.heap) :
      (s.need found name next).session.heap = s.heap := by
    cases found with
    | none => rfl
    | some object => exact h object
  cases hplan : command.plan? with
  | some plan =>
    obtain ⟨name, read⟩ := plan
    rw [step_of_plan s hplan]
    obtain ⟨settings, rfl, hpos, -⟩ | ⟨-, -, he⟩ := granted_cases read
    · rw [Except.bind, Registry.ofSettings_eq, if_neg hpos.ne', keepNew, keep, session_ask]
      exact ⟨_, rfl⟩
    · obtain ⟨e, he⟩ := he s.heap
      rw [he]
      exact hsame rfl
  | none =>
    refine hsame ?_
    cases command with
    | new | standard | ofSettings | ofToml => cases hplan
    | drop on => rfl
    | clone on name => exact hneed fun _ => by rw [keep, session_ask]
    | info | text => simp only [step, session_ask]
    | get | preferred => exact hneed fun _ => by rw [hold, session_ask]
    | resolve on order name =>
      refine hneed fun registry => ?_
      cases order with
      | none => rfl
      | some order => simp only [Registry.resolve, hold, session_ask]

/-- A pool that is not asked for anything does not change. -/
lemma get?_step {command : Command} {handle : Handle} {pool : Pool}
    (hasks : ∀ on request, command.request? s = some (on, request) →
      s.pools.find? on ≠ some handle) (hget : s.heap.get? handle = some pool) :
    (s.step command).session.heap.get? handle = some pool := by
  have hmore (more : List Pool) : (⟨s.heap.pools ++ more⟩ : Heap).get? handle = some pool := by
    obtain ⟨hlt, -⟩ := List.getElem?_eq_some_iff.mp hget
    exact (List.getElem?_append_left hlt).trans hget
  cases command with
  | pool command =>
    obtain ⟨name, read, hplan⟩ | ⟨on, rfl⟩ | ⟨on, request, other, served, hreq, hheld⟩ |
      ⟨-, -, hsame⟩ := command.step_cases s
    · rw [Session.step, command.step_of_plan s hplan]
      cases read.bind Pool.ofSettings with
      | error e => exact hget
      | ok made => exact hmore [made]
    · exact hget
    · have hne : other ≠ handle := by
        rintro rfl
        exact hasks on request hreq (find?_of_handled? hheld)
      have hheap := congrArg Holdings.heap (holdings_of_request hreq hheld)
      rw [Session.step, show (command.step s).session.heap = _ from hheap,
        Heap.get?_set_of_ne _ hne]
      exact hget
    · rw [Session.step, hsame]
      exact hget
  | registry command =>
    obtain ⟨more, hheap⟩ := command.heap_step s
    rw [Session.step, hheap]
    exact hmore more
  | region | arena | slab | buffer =>
    rw [show (s.step _).session.heap = s.heap from
      congrArg Holdings.heap (holdings_step s (by trivial))]
    exact hget

end Apart

end Session
end BytePool
