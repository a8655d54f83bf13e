import BytePool.Proofs.Pool.Projection
import BytePool.Proofs.Session.Holdings

/-!
# What names mean

Which pool a name means can be told from the commands alone: it is known by the step that made it
and, if a registry was made there, by the order that it was made for. The pools of a session are
those that were made, and under every name there is the one that the commands say.
-/
namespace BytePool.Session

/-! ### The book of a session -/

lemma Names.map_congr {α β : Type} {f g : α → β} {names : Names α}
    (h : names.All fun value => f value = g value) : names.map f = names.map g :=
  congrArg Names.mk (List.map_congr_left fun entry hentry => congrArg (entry.1, ·) (h entry hentry))

/-- A pool, known by the step that made it and the order that it is registered for, if it is. -/
structure Identity where
  birth : Nat
  order : Option ByteOrder
  deriving DecidableEq, Repr

/-- A registry, known by the step that made it, with what it was made with. -/
structure Deed where
  birth : Nat
  settings : Settings
  deriving DecidableEq, Repr

namespace Deed

def pool (deed : Deed) (order : ByteOrder) : Identity := ⟨deed.birth, some order⟩

def info (deed : Deed) (order : ByteOrder) : PoolInfo := ⟨order, deed.settings.slabCapacity⟩

/-- The pool for an order, or for the default one. -/
def wanted (deed : Deed) (order : Option ByteOrder) : Identity :=
  deed.pool (order.getD deed.settings.defaultOrder)

/-- The registry, once it is known where the pools are. -/
def registry (place : Identity → Handle) (deed : Deed) : Registry :=
  ⟨.ofFn fun order => place (deed.pool order), deed.settings.defaultOrder⟩

@[simp] lemma get_registry (place : Identity → Handle) (deed : Deed) (order : ByteOrder) :
    (deed.registry place).get order = place (deed.pool order) := PerOrder.get_ofFn ..

@[simp] lemma defaultOrder_registry (place : Identity → Handle) (deed : Deed) :
    (deed.registry place).defaultOrder = deed.settings.defaultOrder := rfl

end Deed

/-- What the commands so far say about pools, without any of them being there. -/
structure Book where
  time : Nat := 0
  /-- All pools in the sequence in which they were made. -/
  made : List (Identity × PoolInfo) := []
  pools : Names Identity := {}
  registries : Names Deed := {}

namespace Book

def identities (book : Book) : List Identity := book.made.map Prod.fst

/-- Pools are held in the sequence in which they were made. -/
def place (book : Book) (a : Identity) : Handle := book.identities.idxOf a

def tick (book : Book) : Book := { book with time := book.time + 1 }

def add (book : Book) (fresh : List (Identity × PoolInfo)) : Book :=
  { book with made := book.made ++ fresh }

def addPool (book : Book) (name : String) (settings : Settings) : Book :=
  let a : Identity := ⟨book.time, none⟩
  { book.add [(a, ⟨settings.defaultOrder, settings.slabCapacity⟩)] with
    pools := book.pools.insert name a }

def addRegistry (book : Book) (name : String) (settings : Settings) : Book :=
  let deed : Deed := ⟨book.time, settings⟩
  { book.add (ByteOrder.all.map fun order => (deed.pool order, deed.info order)) with
    registries := book.registries.insert name deed }

/-- Adds what is granted. -/
def make (book : Book) (add : Book → String → Settings → Book) :
    Option (String × Except Error Settings) → Book
  | none => book
  | some (name, read) => (granted read).elim book (add book name)

def hold (book : Book) (want : Want) : Book :=
  match book.registries.find? want.on with
  | none => book
  | some deed => { book with pools := book.pools.insert want.name (deed.wanted want.order) }

def clone (book : Book) (on name : String) : Book :=
  match book.registries.find? on with
  | none => book
  | some deed => { book with registries := book.registries.insert name deed }

def afterPool (book : Book) : PoolCommand → Book
  | .drop on => { book with pools := book.pools.erase on }
  | command => book.make addPool command.plan?

def afterRegistry (book : Book) : RegistryCommand → Book
  | .drop on => { book with registries := book.registries.erase on }
  | .clone on name => book.clone on name
  | command => command.want?.elim (book.make addRegistry command.plan?) book.hold

def step (book : Book) : Command → Book
  | .pool command => (book.afterPool command).tick
  | .registry command => (book.afterRegistry command).tick
  | .region _ | .arena _ | .slab _ | .buffer _ => book.tick

lemma afterPool_of_plan (book : Book) {command : PoolCommand}
    {plan : String × Except Error Settings} (h : command.plan? = some plan) :
    book.afterPool command = book.make addPool (some plan) := by
  rw [← h]
  cases command <;> first | rfl | cases h

lemma afterRegistry_of_plan (book : Book) {command : RegistryCommand}
    {plan : String × Except Error Settings} (h : command.plan? = some plan) :
    book.afterRegistry command = book.make addRegistry (some plan) := by
  rw [← h]
  cases command <;> first | rfl | cases h

lemma afterRegistry_of_want (book : Book) {command : RegistryCommand} {want : Want}
    (h : command.want? = some want) : book.afterRegistry command = book.hold want := by
  cases command with
  | get | preferred =>
    cases h
    rfl
  | resolve on order name =>
    cases order <;> cases h
    rfl
  | _ => cases h

/-- The pools are those of the book in the sequence of the book, and names mean their places. -/
structure Tracks (book : Book) (x : Holdings) : Prop where
  birth_lt : ∀ a ∈ book.identities, a.birth < book.time
  nodup : book.identities.Nodup
  infos_eq : x.heap.pools.map PoolInfo.of = book.made.map Prod.snd
  pools_eq : x.pools = book.pools.map book.place
  registries_eq : x.registries = book.registries.map (Deed.registry book.place)
  pools_made : book.pools.All (· ∈ book.identities)
  registries_made : book.registries.All fun deed => 0 < deed.settings.slabCapacity ∧
    ∀ order, (deed.pool order, deed.info order) ∈ book.made

lemma identities_add (book : Book) (fresh : List (Identity × PoolInfo)) :
    (book.add fresh).tick.identities = book.identities ++ fresh.map Prod.fst :=
  List.map_append

lemma tracks_empty : Tracks {} ({} : Session).holdings where
  birth_lt := nofun
  nodup := .nil
  infos_eq := rfl
  pools_eq := rfl
  registries_eq := rfl
  pools_made := nofun
  registries_made := nofun

/-- A value that stands somewhere is found at one place only. -/
lemma getElem?_place_of_mem {book : Book} (h : book.identities.Nodup) {a : Identity}
    {info : PoolInfo} (hmem : (a, info) ∈ book.made) :
    (book.made.map Prod.snd)[book.place a]? = some info := by
  obtain ⟨i, hi, hget⟩ := List.mem_iff_getElem.mp hmem
  have hlt : i < book.identities.length := by simpa [identities] using hi
  have hat : book.identities[i] = a := by simp [identities, hget]
  rw [place, ← hat, h.idxOf_getElem i hlt]
  simp [hi, hget]

namespace Tracks
variable {book : Book} {x : Holdings} (h : book.Tracks x)
include h

lemma tick : book.tick.Tracks x :=
  { h with birth_lt := fun a ha => Nat.lt_succ_of_lt (h.birth_lt a ha) }

lemma exists_get? {a : Identity} {info : PoolInfo} (ha : (a, info) ∈ book.made) :
    ∃ pool, x.heap.get? (book.place a) = some pool ∧ PoolInfo.of pool = info := by
  have hinfo := getElem?_place_of_mem h.nodup ha
  rw [← h.infos_eq, List.getElem?_map, Option.map_eq_some_iff] at hinfo
  exact hinfo

lemma exists_get?_of_mem {a : Identity} (ha : a ∈ book.identities) :
    ∃ pool, x.heap.get? (book.place a) = some pool := by
  obtain ⟨⟨_, info⟩, hmem, rfl⟩ := List.mem_map.mp ha
  obtain ⟨pool, hget, -⟩ := h.exists_get? hmem
  exact ⟨pool, hget⟩

/-- A pool that serves a request keeps what it was made with. -/
lemma serve {handle : Handle} {pool : Pool} (hget : x.heap.get? handle = some pool)
    (request : Pool.Request) :
    book.Tracks { x with heap := x.heap.set handle (pool.serve request).state } := by
  obtain ⟨horder, hcapacity⟩ := pool.frame_serve request
  have hinfo : PoolInfo.of (pool.serve request).state = PoolInfo.of pool := by
    rw [PoolInfo.of, horder, hcapacity]
    rfl
  have hsame : (x.heap.pools.map PoolInfo.of)[handle]? = some (PoolInfo.of pool) := by
    rw [List.getElem?_map, show x.heap.pools[handle]? = some pool from hget]
    rfl
  refine { h with infos_eq := ?_ }
  rw [← h.infos_eq, Heap.set, List.map_set, hinfo]
  obtain ⟨hlt, hget⟩ := List.getElem?_eq_some_iff.mp hsame
  rw [← hget, List.set_getElem_self]

lemma erasePool (on : String) :
    { book with pools := book.pools.erase on : Book }.Tracks
      { x with pools := x.pools.erase on } :=
  { h with
    pools_eq := by
      rw [h.pools_eq, Names.erase_map]
      rfl
    pools_made := h.pools_made.erase on }

lemma eraseRegistry (on : String) :
    { book with registries := book.registries.erase on : Book }.Tracks
      { x with registries := x.registries.erase on } :=
  { h with
    registries_eq := by
      rw [h.registries_eq, Names.erase_map]
      rfl
    registries_made := h.registries_made.erase on }

lemma insertPool (name : String) {a : Identity} (ha : a ∈ book.identities) :
    { book with pools := book.pools.insert name a : Book }.Tracks
      { x with pools := x.pools.insert name (book.place a) } :=
  { h with
    pools_eq := by
      rw [h.pools_eq, Names.insert_map]
      rfl
    pools_made := h.pools_made.insert name ha }

lemma insertRegistry (name : String) {deed : Deed} (hpos : 0 < deed.settings.slabCapacity)
    (hmade : ∀ order, (deed.pool order, deed.info order) ∈ book.made) :
    { book with registries := book.registries.insert name deed : Book }.Tracks
      { x with registries := x.registries.insert name (deed.registry book.place) } :=
  { h with
    registries_eq := by
      rw [h.registries_eq, Names.insert_map]
      rfl
    registries_made := h.registries_made.insert name ⟨hpos, hmade⟩ }

/-- New pools come behind the old ones and take no place from them. -/
lemma extend {fresh : List (Identity × PoolInfo)} {pools : List Pool}
    (hbirth : ∀ entry ∈ fresh, entry.1.birth = book.time) (hnodup : (fresh.map Prod.fst).Nodup)
    (hinfos : pools.map PoolInfo.of = fresh.map Prod.snd) :
    (book.add fresh).tick.Tracks { x with heap := ⟨x.heap.pools ++ pools⟩ } := by
  have hplace {a : Identity} (ha : a ∈ book.identities) :
      (book.add fresh).tick.place a = book.place a := by
    rw [place, identities_add]
    exact List.idxOf_append_of_mem ha
  constructor
  case birth_lt =>
    intro a ha
    rw [identities_add] at ha
    obtain ha | ha := List.mem_append.mp ha
    · exact Nat.lt_succ_of_lt (h.birth_lt a ha)
    · obtain ⟨entry, hentry, rfl⟩ := List.mem_map.mp ha
      exact Nat.lt_succ_of_le (hbirth entry hentry).le
  case nodup =>
    rw [identities_add]
    -- Old pools were born before this step, new ones in it.
    refine h.nodup.append hnodup fun a hold hnew => ?_
    obtain ⟨entry, hentry, rfl⟩ := List.mem_map.mp hnew
    exact Nat.ne_of_lt (h.birth_lt _ hold) (hbirth entry hentry)
  case infos_eq =>
    rw [show (book.add fresh).tick.made = book.made ++ fresh from rfl, List.map_append,
      List.map_append, h.infos_eq, hinfos]
  case pools_eq =>
    rw [h.pools_eq]
    exact Names.map_congr fun entry hentry => (hplace (h.pools_made entry hentry)).symm
  case registries_eq =>
    rw [h.registries_eq]
    refine Names.map_congr fun entry hentry => ?_
    have hpools (order : ByteOrder) := hplace (List.mem_map.mpr
      ⟨_, (h.registries_made entry hentry).2 order, rfl⟩)
    simp only [Deed.registry, hpools]
  case pools_made =>
    intro entry hentry
    rw [identities_add]
    exact List.mem_append_left _ (h.pools_made entry hentry)
  case registries_made =>
    intro entry hentry
    obtain ⟨hpos, hmade⟩ := h.registries_made entry hentry
    exact ⟨hpos, fun order => List.mem_append_left _ (hmade order)⟩

/-- The first new pool gets the first place behind the old ones. -/
lemma place_fresh {fresh : List (Identity × PoolInfo)} {a : Identity}
    (hbirth : a.birth = book.time) :
    (book.add fresh).tick.place a = x.heap.pools.length + (fresh.map Prod.fst).idxOf a := by
  have hnew : a ∉ book.identities := fun ha => Nat.ne_of_lt (h.birth_lt a ha) hbirth
  have hlength : book.identities.length = x.heap.pools.length := by
    simpa [identities] using (congrArg List.length h.infos_eq).symm
  rw [place, identities_add, List.idxOf_append_of_notMem hnew, hlength]

lemma addPool (name : String) (settings : Settings) :
    (book.addPool name settings).tick.Tracks
      { x with
        heap := ⟨x.heap.pools ++ [.fresh settings.defaultOrder settings.slabCapacity]⟩
        pools := x.pools.insert name x.heap.pools.length } := by
  set a : Identity := ⟨book.time, none⟩
  set fresh := [(a, (⟨settings.defaultOrder, settings.slabCapacity⟩ : PoolInfo))]
  have hplace : (book.add fresh).tick.place a = x.heap.pools.length := by
    rw [h.place_fresh rfl]
    simp [fresh]
  have hextend : (book.add fresh).tick.Tracks
      { x with heap := ⟨x.heap.pools ++ [.fresh settings.defaultOrder settings.slabCapacity]⟩ } :=
    h.extend (by simp [fresh, a]) (by simp [fresh]) rfl
  have hmem : a ∈ (book.add fresh).tick.identities := by simp [identities_add, fresh]
  have hinsert := hextend.insertPool name hmem
  rw [hplace] at hinsert
  exact hinsert

lemma addRegistry (name : String) {settings : Settings} (hpos : 0 < settings.slabCapacity) :
    (book.addRegistry name settings).tick.Tracks
      { x with
        heap := ⟨x.heap.pools ++
          [.fresh .big settings.slabCapacity, .fresh .little settings.slabCapacity]⟩
        registries := x.registries.insert name
          ⟨⟨x.heap.pools.length, x.heap.pools.length + 1⟩, settings.defaultOrder⟩ } := by
  set deed : Deed := ⟨book.time, settings⟩
  set fresh := ByteOrder.all.map fun order => (deed.pool order, deed.info order)
  have hidentities : fresh.map Prod.fst = [deed.pool .big, deed.pool .little] := rfl
  have hne : deed.pool .big ≠ deed.pool .little := by simp [Deed.pool]
  have hbig : (book.add fresh).tick.place (deed.pool .big) = x.heap.pools.length := by
    rw [h.place_fresh rfl, hidentities, List.idxOf_cons_self]
    rfl
  have hlittle : (book.add fresh).tick.place (deed.pool .little) = x.heap.pools.length + 1 := by
    rw [h.place_fresh rfl, hidentities, List.idxOf_cons_ne _ hne, List.idxOf_cons_self]
  have hextend : (book.add fresh).tick.Tracks
      { x with heap := ⟨x.heap.pools ++
        [.fresh .big settings.slabCapacity, .fresh .little settings.slabCapacity]⟩ } :=
    h.extend (by simp [fresh, deed, Deed.pool]) (by simp [hidentities, hne]) rfl
  have hmade (order : ByteOrder) :
      (deed.pool order, deed.info order) ∈ (book.add fresh).tick.made :=
    List.mem_append_right _ (List.mem_map.mpr ⟨order, order.mem_all, rfl⟩)
  have hinsert := hextend.insertRegistry name hpos hmade
  rw [Deed.registry, PerOrder.ofFn, hbig, hlittle] at hinsert
  exact hinsert

end Tracks
end Book

namespace Book.Tracks
variable {book : Book} {s : Session} (h : book.Tracks s.holdings)
include h

lemma keepPool (name : String) (read : Except Error Settings) :
    (book.make Book.addPool (some (name, read))).tick.Tracks
      (s.keepPool name (read.bind Pool.ofSettings)).session.holdings := by
  obtain ⟨settings, rfl, hpos, hgranted⟩ | ⟨hgranted, ⟨e, he⟩, -⟩ := granted_cases read
  · rw [make, hgranted, Except.bind, Pool.ofSettings_eq, if_neg hpos.ne']
    exact h.addPool name settings
  · rw [make, hgranted, he]
    exact h.tick

lemma keepNew (name : String) (read : Except Error Settings) :
    (book.make Book.addRegistry (some (name, read))).tick.Tracks
      (RegistryCommand.keepNew s name
        (read.bind (Registry.ofSettings s.heap))).session.holdings := by
  obtain ⟨settings, rfl, hpos, hgranted⟩ | ⟨hgranted, -, he⟩ := granted_cases read
  · rw [make, hgranted, Except.bind, Registry.ofSettings_eq, if_neg hpos.ne',
      RegistryCommand.keepNew, RegistryCommand.keep, session_ask]
    exact h.addRegistry name hpos
  · obtain ⟨e, he⟩ := he s.heap
    rw [make, hgranted, he]
    exact h.tick

/-- What a registry is in the book. -/
lemma find?_registry (name : String) :
    s.registries.find? name = (book.registries.find? name).map (Deed.registry book.place) := by
  rw [show s.registries = _ from h.registries_eq, Names.find?_map]

lemma find?_pool (name : String) :
    s.pools.find? name = (book.pools.find? name).map book.place := by
  rw [show s.pools = _ from h.pools_eq, Names.find?_map]

/-- The pools of a registry are there. -/
lemma exists_registered {name : String} {registry : Registry}
    (hname : s.registries.find? name = some registry) (order : ByteOrder) :
    ∃ pool, s.heap.get? (registry.get order) = some pool := by
  rw [h.find?_registry, Option.map_eq_some_iff] at hname
  obtain ⟨deed, hdeed, rfl⟩ := hname
  obtain ⟨pool, hget, -⟩ := h.exists_get? ((h.registries_made.find? hdeed).2 order)
  exact ⟨pool, by rw [Deed.get_registry]; exact hget⟩

lemma hold (want : Want) :
    (book.hold want).tick.Tracks
      (s.need (s.registries.find? want.on) want.on fun registry =>
        RegistryCommand.hold s want.name
          (registry.get (want.order.getD registry.defaultOrder))).session.holdings := by
  rw [h.find?_registry, Book.hold]
  cases hdeed : book.registries.find? want.on with
  | none => exact h.tick
  | some deed =>
    have hmade := (h.registries_made.find? hdeed).2
    have hmem : deed.wanted want.order ∈ book.identities :=
      List.mem_map.mpr ⟨_, hmade _, rfl⟩
    simp only [Option.map_some, need, RegistryCommand.hold, session_ask, Deed.get_registry,
      Deed.defaultOrder_registry]
    exact (h.insertPool want.name hmem).tick

lemma clone (on name : String) :
    (book.clone on name).tick.Tracks
      (s.need (s.registries.find? on) on (RegistryCommand.keep s name)).session.holdings := by
  rw [h.find?_registry, Book.clone]
  cases hdeed : book.registries.find? on with
  | none => exact h.tick
  | some deed =>
    obtain ⟨hpos, hmade⟩ := h.registries_made.find? hdeed
    simp only [Option.map_some, need, RegistryCommand.keep, session_ask]
    exact (h.insertRegistry name hpos hmade).tick

lemma pool (command : PoolCommand) :
    (book.afterPool command).tick.Tracks (command.step s).session.holdings := by
  obtain ⟨name, read, hplan⟩ | ⟨on, rfl⟩ | ⟨on, request, handle, pool, hreq, hheld⟩ |
    ⟨hplan, hdrop, hsame⟩ := command.step_cases s
  · rw [book.afterPool_of_plan hplan, command.step_of_plan s hplan]
    exact h.keepPool name read
  · exact (h.erasePool on).tick
  · have hafter : book.afterPool command = book := by
      cases command <;> first | rfl | cases hreq
    rw [hafter, holdings_of_request hreq hheld]
    exact (h.serve (get?_of_handled? hheld) request).tick
  · have hafter : book.afterPool command = book := by
      cases command <;> first | rfl | exact absurd rfl (hdrop _) | cases hplan
    rw [hafter, hsame]
    exact h.tick

lemma registry (command : RegistryCommand) :
    (book.afterRegistry command).tick.Tracks (command.step s).session.holdings := by
  cases hplan : command.plan? with
  | some plan =>
    rw [book.afterRegistry_of_plan hplan, command.step_of_plan s hplan]
    exact h.keepNew plan.1 plan.2
  | none =>
    cases hwant : command.want? with
    | some want =>
      rw [book.afterRegistry_of_want hwant, command.step_of_want s hwant]
      exact h.hold want
    | none =>
      cases command with
      | new | standard | ofSettings | ofToml => cases hplan
      | get | preferred => cases hwant
      | clone on name => exact h.clone on name
      | drop on => exact (h.eraseRegistry on).tick
      | info on | text on =>
        simp only [RegistryCommand.step, session_ask]
        exact h.tick
      | resolve on order name =>
        have hunset : order = none := Option.map_eq_none_iff.mp hwant
        subst hunset
        have hsame : (RegistryCommand.step s (.resolve on none name)).session = s := by
          simp only [RegistryCommand.step, need, Registry.resolve]
          split <;> rfl
        rw [hsame]
        exact h.tick

theorem step (command : Command) :
    (book.step command).Tracks (s.step command).session.holdings := by
  cases command with
  | pool command => exact h.pool command
  | registry command => exact h.registry command
  | region | arena | slab | buffer =>
    rw [holdings_step s (by trivial)]
    exact h.tick

end Book.Tracks

end BytePool.Session
