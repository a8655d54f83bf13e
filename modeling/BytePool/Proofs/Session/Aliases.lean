import BytePool.Proofs.Session.Shared

/-!
# Aliases in sessions

Nobody can tell under which name a pool is held. Two sessions in which each command means the same
pools and registries, whatever their names are, show the same at every step.
-/
namespace BytePool.Session

/-! ### Sessions without names -/

/-- A session with everything in it but the names of pools and registries. -/
def unnamed (s : Session) : Session := { s with pools := {}, registries := {} }

def Turn.unnamed (turn : Turn) : Turn := { turn with session := turn.session.unnamed }

/-- The same is found under both names, or nothing under one name. -/
structure Agree {α : Type} (found found' : Option α) (name name' : String) : Prop where
  found_eq : found = found'
  name_eq : found = none → name = name'

lemma Agree.refl {α : Type} (found : Option α) (name : String) : Agree found found name name :=
  ⟨rfl, fun _ => rfl⟩

lemma Agree.map {α β : Type} {found found' : Option α} {name name' : String}
    (h : Agree found found' name name') (f : α → β) :
    Agree (found.map f) (found'.map f) name name' :=
  ⟨by rw [h.found_eq], fun hnone => h.name_eq (Option.map_eq_none_iff.mp hnone)⟩

lemma Agree.bind {α β : Type} {found found' : Option α} {name name' : String}
    (h : Agree found found' name name') {f f' : α → Option β}
    (hf : ∀ object, found = some object → f object = f' object ∧ ∃ value, f object = some value) :
    Agree (found.bind f) (found'.bind f') name name' := by
  obtain ⟨rfl, hname⟩ := h
  cases found with
  | none => exact ⟨rfl, fun _ => hname rfl⟩
  | some object =>
    obtain ⟨heq, value, hvalue⟩ := hf object rfl
    refine ⟨heq, fun hnone => ?_⟩
    rw [Option.bind_some, hvalue] at hnone
    cases hnone

section Unnamed
variable {s t : Session} {α : Type} {found found' : Option α} {name name' : String}
  (hunnamed : s.unnamed = t.unnamed)
include hunnamed

lemma Agree.need (h : Agree found found' name name') {next next' : α → Turn}
    (hnext : ∀ object, found = some object → (next object).unnamed = (next' object).unnamed) :
    (s.need found name next).unnamed = (t.need found' name' next').unnamed := by
  obtain ⟨rfl, hname⟩ := h
  cases found with
  | none =>
    obtain rfl := hname rfl
    exact congrArg (Turn.missing name) hunnamed
  | some object => exact hnext object rfl

lemma Agree.ask (h : Agree found found' name name') (answer : α → Answer) :
    (s.ask found name answer).unnamed = (t.ask found' name' answer).unnamed :=
  h.need hunnamed fun object _ => congrArg (Turn.answer (answer object)) hunnamed

lemma unnamed_heap (heap : Heap) :
    { s with heap }.unnamed = { t with heap }.unnamed :=
  congrArg (fun u : Session => { u with heap }) hunnamed

lemma heap_of_unnamed : s.heap = t.heap := congrArg (·.heap) hunnamed

lemma regions_of_unnamed : s.regions = t.regions := congrArg (·.regions) hunnamed

end Unnamed

lemma unnamed_ofReply {σ : Type} {reply : Reply σ Buffer} {keep keep' : σ → Session} {name : String}
    (hkeep : ∀ state, (keep state).unnamed = (keep' state).unnamed) :
    (Turn.ofReply reply keep (keepBuffer name)).unnamed =
      (Turn.ofReply reply keep' (keepBuffer name)).unnamed := by
  unfold Turn.ofReply
  split
  case h_1 failure _ =>
    exact congrArg (fun u => (⟨.error (.failed failure), u, reply.events⟩ : Turn))
      (hkeep reply.state)
  case h_2 b _ =>
    exact congrArg (fun u => (⟨.ok (.buffer b), u.putBuffer name b, reply.events⟩ : Turn))
      (hkeep reply.state)

/-- A name for a pool is as good as any other. -/
lemma unnamed_hold {s : Session} {handle : Handle} {pool : Pool}
    (h : s.heap.get? handle = some pool) (name : String) :
    (RegistryCommand.hold s name handle).unnamed = .answer (.pool (.of pool)) s.unnamed := by
  have hfound : ({ s with pools := s.pools.insert name handle }).pool? name = some pool := by
    simp [pool?, handled?, h]
  rw [RegistryCommand.hold, hfound]
  rfl

lemma exists_registryInfo {s : Session} {registry : Registry}
    (h : ∀ order, ∃ pool, s.heap.get? (registry.get order) = some pool) :
    ∃ info, RegistryInfo.of? s registry = some info := by
  obtain ⟨preferred, hpreferred⟩ := h registry.defaultOrder
  obtain ⟨big, hbig⟩ := h .big
  obtain ⟨little, hlittle⟩ := h .little
  simp [RegistryInfo.of?, Registry.preferred, PerOrder.ofFnM, hpreferred, hbig, hlittle]

/-- So is a name for a registry. -/
lemma unnamed_keep {s : Session} {registry : Registry} {info : RegistryInfo}
    (h : RegistryInfo.of? s registry = some info) (name : String) :
    (RegistryCommand.keep s name registry).unnamed = .answer (.registry info) s.unnamed := by
  have hfound : ({ s with registries := s.registries.insert name registry }).registryInfo? name =
      some info := by
    rw [registryInfo?, Names.find?_insert_self]
    exact h
  rw [RegistryCommand.keep, hfound]
  rfl

lemma unnamed_keep_congr {s t : Session} (hunnamed : s.unnamed = t.unnamed) {registry : Registry}
    (hpools : ∀ order, ∃ pool, s.heap.get? (registry.get order) = some pool)
    (name name' : String) :
    (RegistryCommand.keep s name registry).unnamed =
      (RegistryCommand.keep t name' registry).unnamed := by
  obtain ⟨info, hinfo⟩ := exists_registryInfo hpools
  have hinfo' : RegistryInfo.of? t registry = some info := by
    rw [← hinfo, RegistryInfo.of?, RegistryInfo.of?, heap_of_unnamed hunnamed]
  rw [unnamed_keep hinfo, unnamed_keep hinfo', hunnamed]

lemma need_map (s : Session) {α β : Type} (found : Option α) (f : α → β) (name : String)
    (next : β → Turn) :
    s.need (found.map f) name next = s.need found name fun object => next (f object) := by
  cases found <;> rfl

lemma unnamed_step_of_local (s : Session) {command : Command} (h : command.IsLocal) :
    (s.step command).unnamed = s.unnamed.step command := by
  have hheap : (s.step command).session.heap = s.heap :=
    congrArg Holdings.heap (holdings_step s h)
  calc (s.step command).unnamed
    _ = (s.step command).withHoldings ⟨(s.step command).session.heap, {}, {}⟩ := rfl
    _ = (s.step command).withHoldings ⟨s.heap, {}, {}⟩ := by rw [hheap]
    _ = s.unnamed.step command := (step_withHoldings s ⟨s.heap, {}, {}⟩ h).symm

/-! ### Commands under other names -/

/-- The names mean one pool, each in its session. -/
def Book.SamePool (book book' : Book) (on on' : String) : Prop :=
  Agree (book.pools.find? on) (book'.pools.find? on') on on'

def Book.SameRegistry (book book' : Book) (on on' : String) : Prop :=
  Agree (book.registries.find? on) (book'.registries.find? on') on on'

/-- One command for two sessions: it makes the same, or each name of a pool stands for the same pool
in both. -/
inductive PoolCommand.Swap (book book' : Book) : PoolCommand → PoolCommand → Prop
  | make {command command' name name' read} : command.plan? = some (name, read) →
      command'.plan? = some (name', read) → Swap book book' command command'
  | info {on on'} : book.SamePool book' on on' → Swap book book' (.info on) (.info on')
  | stats {on on'} : book.SamePool book' on on' → Swap book book' (.stats on) (.stats on')
  | snapshot {on on'} (order : ByteOrder) : book.SamePool book' on on' →
      Swap book book' (.snapshot on order) (.snapshot on' order)
  | text {on on'} : book.SamePool book' on on' → Swap book book' (.text on) (.text on')
  | statsText {on on'} : book.SamePool book' on on' →
      Swap book book' (.statsText on) (.statsText on')
  | same {on on' other other'} : book.SamePool book' on on' →
      book.SamePool book' other other' → Swap book book' (.same on other) (.same on' other')
  | drop {on on'} : book.SamePool book' on on' → Swap book book' (.drop on) (.drop on')
  | request {on on'} (asked : Pool.Request) (name : String) : book.SamePool book' on on' →
      Swap book book' (.request on asked name) (.request on' asked name)
  | adoptRegion {on on'} (region name : String) : book.SamePool book' on on' →
      Swap book book' (.adoptRegion on region name) (.adoptRegion on' region name)
  | copyRegion {on on'} (region name : String) : book.SamePool book' on on' →
      Swap book book' (.copyRegion on region name) (.copyRegion on' region name)

/-- Likewise for registries, where it makes no difference how a pool is asked for either. -/
inductive RegistryCommand.Swap (book book' : Book) : RegistryCommand → RegistryCommand → Prop
  | make {command command' name name' read} : command.plan? = some (name, read) →
      command'.plan? = some (name', read) → Swap book book' command command'
  | want {command command' want want'} : command.want? = some want →
      command'.want? = some want' →
      Agree ((book.registries.find? want.on).map (·.wanted want.order))
        ((book'.registries.find? want'.on).map (·.wanted want'.order)) want.on want'.on →
      Swap book book' command command'
  | unset {on on'} (name name' : String) : book.SameRegistry book' on on' →
      Swap book book' (.resolve on none name) (.resolve on' none name')
  | clone {on on'} (name name' : String) : book.SameRegistry book' on on' →
      Swap book book' (.clone on name) (.clone on' name')
  | info {on on'} : book.SameRegistry book' on on' → Swap book book' (.info on) (.info on')
  | text {on on'} : book.SameRegistry book' on on' → Swap book book' (.text on) (.text on')
  | drop {on on'} : book.SameRegistry book' on on' → Swap book book' (.drop on) (.drop on')

inductive Command.Swap (book book' : Book) : Command → Command → Prop
  | pool {command command'} : command.Swap book book' command' →
      Swap book book' (.pool command) (.pool command')
  | registry {command command'} : command.Swap book book' command' →
      Swap book book' (.registry command) (.registry command')
  | same {command} : command.IsLocal → Swap book book' command command

/-- Commands for two sessions, one by one. -/
inductive Swaps : Book → Book → List Command → List Command → Prop
  | nil (book book' : Book) : Swaps book book' [] []
  | cons {book book' command command' commands commands'} :
      command.Swap book book' command' →
      Swaps (book.step command) (book'.step command') commands commands' →
      Swaps book book' (command :: commands) (command' :: commands')

/-- Nothing has to be replaced. -/
lemma Command.Swap.refl (book : Book) (command : Command) : command.Swap book book command := by
  have hpool (on : String) : book.SamePool book on on := Agree.refl _ _
  have hregistry (on : String) : book.SameRegistry book on on := Agree.refl _ _
  cases command with
  | pool command =>
    refine .pool ?_
    cases command with
    | new | standard | ofOrder | ofSettings | ofToml => exact .make rfl rfl
    | info on => exact .info (hpool on)
    | stats on => exact .stats (hpool on)
    | snapshot on order => exact .snapshot order (hpool on)
    | text on => exact .text (hpool on)
    | statsText on => exact .statsText (hpool on)
    | same on other => exact .same (hpool on) (hpool other)
    | drop on => exact .drop (hpool on)
    | request on asked name => exact .request asked name (hpool on)
    | adoptRegion on region name => exact .adoptRegion region name (hpool on)
    | copyRegion on region name => exact .copyRegion region name (hpool on)
  | registry command =>
    refine .registry ?_
    cases command with
    | new | standard | ofSettings | ofToml => exact .make rfl rfl
    | clone on name => exact .clone name name (hregistry on)
    | info on => exact .info (hregistry on)
    | text on => exact .text (hregistry on)
    | drop on => exact .drop (hregistry on)
    | get | preferred => exact .want rfl rfl (Agree.refl _ _)
    | resolve on order name =>
      cases order with
      | none => exact .unset name name (hregistry on)
      | some order => exact .want rfl rfl (Agree.refl _ _)
  | region | arena | slab | buffer => exact .same trivial

lemma Swaps.refl (book : Book) (commands : List Command) : Swaps book book commands commands := by
  induction commands generalizing book with
  | nil => exact .nil book book
  | cons command commands ih => exact .cons (.refl book command) (ih _)

/-! ### Two sessions at once -/

/-- Two sessions that differ only in names. -/
structure Aligned (book book' : Book) (s t : Session) : Prop where
  left : book.Tracks s.holdings
  right : book'.Tracks t.holdings
  time_eq : book.time = book'.time
  made_eq : book.made = book'.made
  unnamed_eq : s.unnamed = t.unnamed

/-- The same things are made by both. -/
lemma Book.made_make_congr {book book' : Book} {add : Book → String → Settings → Book}
    (hadd : ∀ name name' settings,
      (add book name settings).made = (add book' name' settings).made)
    (hmade : book.made = book'.made) (name name' : String) (read : Except Error Settings) :
    (book.make add (some (name, read))).made = (book'.make add (some (name', read))).made := by
  rw [make, make]
  cases granted read with
  | none => exact hmade
  | some settings => exact hadd name name' settings

namespace Aligned
variable {book book' : Book} {s t : Session} (h : Aligned book book' s t)
include h

lemma place_eq : book.place = book'.place := by
  funext a
  rw [Book.place, Book.identities, h.made_eq]
  rfl

lemma handle {on on' : String} (hon : book.SamePool book' on on') :
    Agree (s.pools.find? on) (t.pools.find? on') on on' := by
  rw [h.left.find?_pool, h.right.find?_pool, h.place_eq]
  exact hon.map book'.place

lemma handled {on on' : String} (hon : book.SamePool book' on on') :
    Agree (s.handled? on) (t.handled? on') on on' := by
  refine (h.handle hon).bind fun handle hfind => ?_
  obtain ⟨a, ha, rfl⟩ := Option.map_eq_some_iff.mp (h.left.find?_pool on ▸ hfind)
  obtain ⟨pool, hget⟩ := h.left.exists_get?_of_mem (h.left.pools_made.find? ha)
  have hget' : t.heap.get? (book.place a) = some pool := heap_of_unnamed h.unnamed_eq ▸ hget
  simp [show s.heap.get? (book.place a) = some pool from hget, hget']

lemma pool {on on' : String} (hon : book.SamePool book' on on') :
    Agree (s.pool? on) (t.pool? on') on on' :=
  (h.handled hon).map Prod.snd

lemma registry {on on' : String} (hon : book.SameRegistry book' on on') :
    Agree (s.registries.find? on) (t.registries.find? on') on on' := by
  rw [h.left.find?_registry, h.right.find?_registry, h.place_eq]
  exact hon.map (Deed.registry book'.place)

lemma info {on on' : String} (hon : book.SameRegistry book' on on') :
    Agree (s.registryInfo? on) (t.registryInfo? on') on on' := by
  refine (h.registry hon).bind fun registry hfind => ⟨?_, ?_⟩
  · rw [RegistryInfo.of?, RegistryInfo.of?, heap_of_unnamed h.unnamed_eq]
  · exact exists_registryInfo (h.left.exists_registered hfind)

lemma text {on on' : String} (hon : book.SameRegistry book' on on') :
    Agree ((s.registries.find? on).bind (·.text? s.heap))
      ((t.registries.find? on').bind (·.text? t.heap)) on on' := by
  refine (h.registry hon).bind fun registry hfind => ⟨?_, ?_⟩
  · rw [heap_of_unnamed h.unnamed_eq]
  · obtain ⟨big, hbig⟩ := h.left.exists_registered hfind .big
    obtain ⟨little, hlittle⟩ := h.left.exists_registered hfind .little
    simp [Registry.text?, PerOrder.ofFnM, hbig, hlittle]

/-- Both find the same pool when they want one of a registry. -/
lemma wanted {want want' : Want}
    (hwant : Agree ((book.registries.find? want.on).map (·.wanted want.order))
      ((book'.registries.find? want'.on).map (·.wanted want'.order)) want.on want'.on) :
    Agree
      ((s.registries.find? want.on).map fun r => r.get (want.order.getD r.defaultOrder))
      ((t.registries.find? want'.on).map fun r => r.get (want'.order.getD r.defaultOrder))
      want.on want'.on := by
  have hplaces := hwant.map book.place
  simp only [h.left.find?_registry, h.right.find?_registry, h.place_eq, Option.map_map,
    Function.comp_def, Deed.get_registry, Deed.defaultOrder_registry] at hplaces ⊢
  exact hplaces

lemma pool_step {command command' : PoolCommand} (hswap : command.Swap book book' command') :
    (command.step s).unnamed = (command'.step t).unnamed := by
  have hunnamed := h.unnamed_eq
  have hregion (region : String) :
      Agree (s.regions.find? region) (t.regions.find? region) region region :=
    ⟨by rw [regions_of_unnamed hunnamed], fun _ => rfl⟩
  cases hswap with
  | @make _ _ name name' read hplan hplan' =>
    rw [PoolCommand.step_of_plan s hplan, PoolCommand.step_of_plan t hplan']
    cases read.bind Pool.ofSettings with
    | error e => exact congrArg (Turn.refuse e) hunnamed
    | ok made =>
      exact congrArg (fun u : Session =>
        Turn.answer (.pool (.of made)) { u with heap := (u.heap.add made).2 }) hunnamed
  | info hon | stats hon | snapshot order hon | text hon | statsText hon =>
    exact (h.pool hon).ask hunnamed _
  | same hon hother =>
    exact (h.handle hon).need hunnamed fun one _ =>
      (h.handle hother).ask hunnamed fun two => .truth (one = two)
  | drop hon =>
    rw [PoolCommand.step, PoolCommand.step, Names.contains, Names.contains,
      (h.handle hon).found_eq]
    exact congrArg (Turn.answer _) hunnamed
  | request asked name hon =>
    exact (h.handled hon).need hunnamed fun held _ => unnamed_ofReply fun state =>
      congrArg (fun u : Session => { u with heap := u.heap.set held.1 state }) hunnamed
  | adoptRegion region name hon =>
    refine (h.handled hon).need hunnamed fun held _ => ?_
    exact (hregion region).need hunnamed fun given _ => unnamed_ofReply fun state =>
      congrArg (fun u : Session =>
        { u with heap := u.heap.set held.1 state, regions := u.regions.erase region }) hunnamed
  | copyRegion region name hon =>
    refine (h.handled hon).need hunnamed fun held _ => ?_
    exact (hregion region).need hunnamed fun given _ => unnamed_ofReply fun state =>
      congrArg (fun u : Session =>
        { u with heap := u.heap.set held.1 state.1, regions := u.regions.insert region state.2 })
        hunnamed

lemma registry_step {command command' : RegistryCommand}
    (hswap : command.Swap book book' command') :
    (command.step s).unnamed = (command'.step t).unnamed := by
  have hunnamed := h.unnamed_eq
  cases hswap with
  | @make _ _ name name' read hplan hplan' =>
    rw [RegistryCommand.step_of_plan s hplan, RegistryCommand.step_of_plan t hplan',
      ← heap_of_unnamed hunnamed]
    obtain ⟨settings, rfl, hpos, -⟩ | ⟨-, -, he⟩ := granted_cases read
    · rw [Except.bind, Registry.ofSettings_eq, if_neg hpos.ne']
      -- The new pools are the last two of both heaps, which were the same before.
      refine unnamed_keep_congr (unnamed_heap hunnamed _) (fun order => ?_) name name'
      cases order <;> simp [Heap.get?, Registry.get, PerOrder.get]
    · obtain ⟨e, he⟩ := he s.heap
      rw [he]
      exact congrArg (Turn.refuse e) hunnamed
  | @want _ _ want want' hwant hwant' hagree =>
    -- The registries may be different clones; all that counts is the pool that they lead to.
    rw [RegistryCommand.step_of_want s hwant, RegistryCommand.step_of_want t hwant',
      ← need_map s _ _ _ (RegistryCommand.hold s want.name),
      ← need_map t _ _ _ (RegistryCommand.hold t want'.name)]
    refine (h.wanted hagree).need hunnamed fun handle hfind => ?_
    obtain ⟨registry, hregistry, rfl⟩ := Option.map_eq_some_iff.mp hfind
    obtain ⟨pool, hget⟩ := h.left.exists_registered hregistry
      (want.order.getD registry.defaultOrder)
    rw [unnamed_hold hget, unnamed_hold (heap_of_unnamed hunnamed ▸ hget), hunnamed]
  | unset name name' hon =>
    exact (h.registry hon).need hunnamed fun _ _ => congrArg (Turn.refuse ByteOrder.unset) hunnamed
  | clone name name' hon =>
    exact (h.registry hon).need hunnamed fun registry hfind =>
      unnamed_keep_congr hunnamed (h.left.exists_registered hfind) name name'
  | info hon => exact (h.info hon).ask hunnamed _
  | text hon => exact (h.text hon).ask hunnamed _
  | drop hon =>
    rw [RegistryCommand.step, RegistryCommand.step, Names.contains, Names.contains,
      (h.registry hon).found_eq]
    exact congrArg (Turn.answer _) hunnamed

/-- No step shows under which names pools and registries are held. -/
lemma unnamed_step {command command' : Command} (hswap : command.Swap book book' command') :
    (s.step command).unnamed = (t.step command').unnamed := by
  cases hswap with
  | pool hswap => exact h.pool_step hswap
  | registry hswap => exact h.registry_step hswap
  | @same command hlocal =>
    rw [unnamed_step_of_local s hlocal, unnamed_step_of_local t hlocal, h.unnamed_eq]

lemma made_step {command command' : Command} (hswap : command.Swap book book' command') :
    (book.step command).made = (book'.step command').made := by
  have haddPool (name name' : String) (settings : Settings) :
      (book.addPool name settings).made = (book'.addPool name' settings).made := by
    simp only [Book.addPool, Book.add, h.time_eq, h.made_eq]
  have haddRegistry (name name' : String) (settings : Settings) :
      (book.addRegistry name settings).made = (book'.addRegistry name' settings).made := by
    simp only [Book.addRegistry, Book.add, h.time_eq, h.made_eq]
  cases hswap with
  | pool hswap =>
    cases hswap with
    | make hplan hplan' =>
      rw [Book.step, Book.step, Book.afterPool_of_plan _ hplan, Book.afterPool_of_plan _ hplan']
      exact Book.made_make_congr haddPool h.made_eq _ _ _
    | _ => exact h.made_eq
  | registry hswap =>
    cases hswap with
    | make hplan hplan' =>
      rw [Book.step, Book.step, Book.afterRegistry_of_plan _ hplan,
        Book.afterRegistry_of_plan _ hplan']
      exact Book.made_make_congr haddRegistry h.made_eq _ _ _
    | want hwant hwant' =>
      rw [Book.step, Book.step, Book.afterRegistry_of_want _ hwant,
        Book.afterRegistry_of_want _ hwant']
      exact (book.frame_hold _).2.trans (h.made_eq.trans (book'.frame_hold _).2.symm)
    | clone =>
      exact (book.frame_clone _ _).2.trans (h.made_eq.trans (book'.frame_clone _ _).2.symm)
    | _ => exact h.made_eq
  | same hlocal =>
    cases command with
    | pool | registry => cases hlocal
    | _ => exact h.made_eq

lemma step {command command' : Command} (hswap : command.Swap book book' command') :
    Aligned (book.step command) (book'.step command') (s.step command).session
      (t.step command').session where
  left := h.left.step command
  right := h.right.step command'
  time_eq := by rw [Book.time_step, Book.time_step, h.time_eq]
  made_eq := h.made_step hswap
  unnamed_eq := congrArg Turn.session (h.unnamed_step hswap)

end Aligned

lemma unnamed_run {book book' : Book} {s t : Session} (h : Aligned book book' s t)
    {commands commands' : List Command} (hswaps : Swaps book book' commands commands') :
    (s.run commands).map Turn.unnamed = (t.run commands').map Turn.unnamed := by
  induction hswaps generalizing s t with
  | nil => rfl
  | cons hswap _ ih =>
    rw [run, run, List.map_cons, List.map_cons, h.unnamed_step hswap, ih (h.step hswap)]

/-- Each pool has a place of its own, where all its names and all clones of its registry lead, all
the time; and no run shows by which of them a pool was asked for anything. -/
theorem aliases_interchangeable :
    (∀ commands, ∃ place : Identity → Handle, Function.Injective place ∧
      ∀ point ∈ points {} {} commands, Shares place point.1 point.2) ∧
    ∀ commands commands', Swaps {} {} commands commands' →
      (run {} commands).map Turn.unnamed = (run {} commands').map Turn.unnamed :=
  ⟨exists_shares, fun _ _ hswaps =>
    unnamed_run ⟨Book.tracks_empty, Book.tracks_empty, rfl, rfl, rfl⟩ hswaps⟩

/-- A pool that is held twice, through a registry and through its clone, and is asked under either
name. -/
theorem aliases_interchangeable_of_two :
    let commands (on : String) : List Command :=
      [.registry (.new 64 "r"), .registry (.clone "r" "c"), .registry (.get "r" .big "p"),
        .registry (.resolve "c" (some .big) "q"), .pool (.request on (.copyBytes [1, 2, 3]) "b"),
        .pool (.stats "q")]
    (∃ place point, Function.Injective place ∧ point ∈ points {} {} (commands "p") ∧
      Shares place point.1 point.2 ∧ point.2.pools.find? "p" = some (place ⟨0, some .big⟩) ∧
      point.2.pools.find? "q" = some (place ⟨0, some .big⟩)) ∧
    Swaps {} {} (commands "p") (commands "q") ∧
    (run {} (commands "p")).map Turn.unnamed = (run {} (commands "q")).map Turn.unnamed ∧
    ∃ stats turn, (run {} (commands "p"))[5]? = some turn ∧ turn.outcome = .ok (.stats stats) ∧
      (stats.arenas.get .big).bytesIssued = 3 := by
  intro commands
  obtain ⟨place, hinjective, hshares⟩ := aliases_interchangeable.1 (commands "p")
  have hlast : (points {} {} (commands "p"))[6]? = some _ := rfl
  have hpoint := hshares _ (List.mem_of_getElem? hlast)
  have hswaps : Swaps {} {} (commands "p") (commands "q") :=
    .cons (.refl ..) <| .cons (.refl ..) <| .cons (.refl ..) <| .cons (.refl ..) <|
      .cons (.pool (.request _ _ ⟨rfl, by rintro ⟨⟩⟩)) (.refl _ _)
  refine ⟨⟨place, _, hinjective, List.mem_of_getElem? hlast, hpoint, ?_, ?_⟩, hswaps,
    aliases_interchangeable.2 _ _ hswaps, _, _, rfl, rfl, rfl⟩
  · rw [hpoint.pools_eq]
    rfl
  · rw [hpoint.pools_eq]
    rfl

end BytePool.Session
