import BytePool.Proofs.Session.Book

/-!
# Shared pools in sessions

Every pool has one place for a whole run, where all its names and registries find it, and no two
pools have the same.
-/
namespace BytePool.Session

/-! ### Runs -/

/-- The book and the session before, between and after commands. -/
def points (book : Book) (s : Session) : List Command → List (Book × Session)
  | [] => [(book, s)]
  | command :: commands =>
    (book, s) :: points (book.step command) (s.step command).session commands

lemma tracks_points {book : Book} {s : Session} (h : book.Tracks s.holdings)
    (commands : List Command) :
    ∀ point ∈ points book s commands, point.1.Tracks point.2.holdings := by
  induction commands generalizing book s with
  | nil => exact List.forall_mem_singleton.mpr h
  | cons command commands ih => exact List.forall_mem_cons.mpr ⟨h, ih (h.step command)⟩

namespace Book

/-- The book once all commands are through. -/
def after (book : Book) (commands : List Command) : Book := commands.foldl step book

lemma of_make {P : Book → Prop} {book : Book} {add : Book → String → Settings → Book}
    (hself : P book) (hadd : ∀ name settings, P (add book name settings))
    (plan : Option (String × Except Error Settings)) : P (book.make add plan) := by
  cases plan with
  | none => exact hself
  | some plan =>
    rw [make]
    cases granted plan.2 with
    | none => exact hself
    | some settings => exact hadd plan.1 settings

lemma frame_hold (book : Book) (want : Want) :
    (book.hold want).time = book.time ∧ (book.hold want).made = book.made := by
  unfold hold
  split <;> exact ⟨rfl, rfl⟩

lemma frame_clone (book : Book) (on name : String) :
    (book.clone on name).time = book.time ∧ (book.clone on name).made = book.made := by
  unfold clone
  split <;> exact ⟨rfl, rfl⟩

/-- A step makes one pool, those of one registry or none. -/
lemma step_induction {P : Book → Prop} {book : Book}
    (hframe : ∀ other : Book, other.time = book.time ∧ other.made = book.made → P other.tick)
    (hpool : ∀ name settings, P (book.addPool name settings).tick)
    (hregistry : ∀ name settings, P (book.addRegistry name settings).tick) (command : Command) :
    P (book.step command) := by
  have hself : P book.tick := hframe book ⟨rfl, rfl⟩
  cases command with
  | pool command =>
    cases command with
    | drop on => exact hframe _ ⟨rfl, rfl⟩
    | _ => exact of_make (P := fun later => P later.tick) hself hpool _
  | registry command =>
    cases command with
    | drop on => exact hframe _ ⟨rfl, rfl⟩
    | clone on name => exact hframe _ (book.frame_clone on name)
    | get | preferred => exact hframe _ (book.frame_hold _)
    | resolve on order name =>
      cases order with
      | none => exact hself
      | some order => exact hframe _ (book.frame_hold _)
    | info | text => exact hself
    | new | standard | ofSettings | ofToml =>
      rw [step, book.afterRegistry_of_plan rfl]
      exact of_make (P := fun later => P later.tick) hself hregistry _
  | _ => exact hself

lemma time_step (book : Book) (command : Command) : (book.step command).time = book.time + 1 :=
  step_induction (P := (·.time = book.time + 1)) (fun _ h => congrArg (· + 1) h.1)
    (fun _ _ => rfl) (fun _ _ => rfl) command

/-- Nothing that was made is ever forgotten. -/
lemma made_step (book : Book) (command : Command) : book.made <+: (book.step command).made :=
  step_induction (P := (book.made <+: ·.made)) (fun _ h => h.2.symm ▸ List.prefix_rfl)
    (fun _ _ => List.prefix_append _ _) (fun _ _ => List.prefix_append _ _) command

lemma made_after (book : Book) (commands : List Command) :
    book.made <+: (book.after commands).made := by
  induction commands generalizing book with
  | nil => exact List.prefix_rfl
  | cons command commands ih => exact (book.made_step command).trans (ih _)

lemma made_of_mem_points {book : Book} {s : Session} {commands : List Command}
    {point : Book × Session} (h : point ∈ points book s commands) :
    point.1.made <+: (book.after commands).made := by
  induction commands generalizing book s with
  | nil =>
    obtain rfl := List.mem_singleton.mp h
    exact List.prefix_rfl
  | cons command commands ih =>
    obtain rfl | h := List.mem_cons.mp h
    · exact book.made_after (command :: commands)
    · exact ih h

/-- What comes later takes no place from what was made before. -/
lemma place_of_prefix {book later : Book} (h : book.made <+: later.made) {a : Identity}
    (ha : a ∈ book.identities) : later.place a = book.place a := by
  obtain ⟨fresh, hfresh⟩ := h
  rw [place, place, identities, ← hfresh, List.map_append]
  exact List.idxOf_append_of_mem ha

end Book

/-- A number for each pool that could ever be made. -/
def Identity.code (a : Identity) : Nat :=
  3 * a.birth + a.order.elim 0 fun order => if order = .big then 1 else 2

lemma Identity.code_injective : Function.Injective code := by
  rintro ⟨birth, order⟩ ⟨birth', order'⟩ h
  obtain _ | _ | _ := order <;> obtain _ | _ | _ := order' <;> simp [code] at h ⊢ <;> omega

/-- Pools that were never made can be put behind all others, so that no two are in one place. -/
lemma Book.exists_injective_place {book : Book} :
    ∃ place : Identity → Handle, Function.Injective place ∧
      ∀ a ∈ book.identities, place a = book.place a := by
  refine ⟨fun a => if a ∈ book.identities then book.place a
    else book.identities.length + a.code, fun a b hab => ?_, fun a ha => if_pos ha⟩
  have hlt {a : Identity} (ha : a ∈ book.identities) : book.place a < book.identities.length :=
    List.idxOf_lt_length_iff.mpr ha
  simp only at hab
  -- Two pools that were made have different first positions, two that were not different codes.
  by_cases ha : a ∈ book.identities <;> by_cases hb : b ∈ book.identities <;>
    simp only [ha, hb, if_true, if_false] at hab
  · exact (List.idxOf_inj ha).mp hab
  · exact absurd (hlt ha) (hab ▸ Nat.not_lt.mpr (Nat.le_add_right _ _))
  · exact absurd (hlt hb) (hab ▸ Nat.not_lt.mpr (Nat.le_add_right _ _))
  · exact Identity.code_injective (Nat.add_left_cancel hab)

/-! ### What is shared -/

/-- Who holds what at one point of a run, with the place where each pool is all the time. -/
structure Shares (place : Identity → Handle) (book : Book) (s : Session) : Prop where
  pools_eq : s.pools = book.pools.map place
  registries_eq : s.registries = book.registries.map (Deed.registry place)
  held : ∀ name a, book.pools.find? name = some a → ∃ pool, s.handled? name = some (place a, pool)
  /-- A registry has a pool for each order, with this order as its default. -/
  registered : ∀ name deed, book.registries.find? name = some deed →
    0 < deed.settings.slabCapacity ∧
    (deed.registry place).slabCapacity? s.heap = some deed.settings.slabCapacity ∧
    ∀ order, ∃ pool, s.heap.get? ((deed.registry place).get order) = some pool ∧
      pool.defaultOrder = order ∧ pool.slabCapacity = deed.settings.slabCapacity
  /-- Registries share a pool if one step made them, and then for the same order. -/
  distinct : ∀ on on' registry registry', s.registries.find? on = some registry →
    s.registries.find? on' = some registry' → ∀ order order',
      registry.get order = registry'.get order' ↔
        (book.registries.find? on).map Deed.birth = (book.registries.find? on').map Deed.birth ∧
          order = order'
  cloned : ∀ on deed name, book.registries.find? on = some deed →
    (s.step (.registry (.clone on name))).session.registries.find? name =
      some (deed.registry place)
  /-- Whenever a registry is asked for its pool of an order, this is the one that is held then. -/
  got : ∀ on deed order name, book.registries.find? on = some deed →
    (s.step (.registry (.get on order name))).session.pools.find? name =
      some ((deed.registry place).get order)
  /-- It makes no difference how a pool of a registry is asked for. -/
  lookups : ∀ on deed name, book.registries.find? on = some deed →
    (∀ order, s.step (.registry (.resolve on (some order) name)) =
      s.step (.registry (.get on order name))) ∧
    s.step (.registry (.preferred on name)) =
      s.step (.registry (.get on deed.settings.defaultOrder name))
  /-- A request under one name of a pool is seen under all its names, and changes no name. -/
  served : ∀ command on request a, Command.request? s command = some (on, request) →
    book.pools.find? on = some a → ∃ pool, s.heap.get? (place a) = some pool ∧
      let t := (s.step command).session
      t.heap.get? (place a) = some (pool.serve request).state ∧
      (∀ name, book.pools.find? name = some a → t.pool? name = some (pool.serve request).state) ∧
      t.pools = s.pools ∧ t.registries = s.registries
  /-- All other pools stay as they are. -/
  apart : ∀ command b pool, (∀ on request, Command.request? s command = some (on, request) →
      book.pools.find? on ≠ some b) →
    s.heap.get? (place b) = some pool → (s.step command).session.heap.get? (place b) = some pool

namespace Book.Tracks
variable {book : Book} {s : Session} (h : book.Tracks s.holdings) {place : Identity → Handle}
  (hplace : ∀ a ∈ book.identities, place a = book.place a)
include h hplace

lemma pools_place : s.pools = book.pools.map place := by
  rw [show s.pools = _ from h.pools_eq]
  exact Names.map_congr fun entry hentry => (hplace _ (h.pools_made entry hentry)).symm

lemma registries_place : s.registries = book.registries.map (Deed.registry place) := by
  rw [show s.registries = _ from h.registries_eq]
  refine Names.map_congr fun entry hentry => ?_
  have hpools (order : ByteOrder) := hplace _ (List.mem_map.mpr
    ⟨_, (h.registries_made entry hentry).2 order, rfl⟩)
  simp only [Deed.registry, hpools]

lemma find?_registries_place (name : String) :
    s.registries.find? name = (book.registries.find? name).map (Deed.registry place) := by
  rw [h.registries_place hplace, Names.find?_map]

lemma exists_held {name : String} {a : Identity} (ha : book.pools.find? name = some a) :
    ∃ pool, s.handled? name = some (place a, pool) := by
  have hmem := h.pools_made.find? ha
  obtain ⟨pool, hget⟩ := h.exists_get?_of_mem hmem
  have hfind : s.pools.find? name = some (book.place a) := by rw [h.find?_pool, ha]; rfl
  rw [hplace a hmem]
  exact ⟨pool, handled?_of_get? hfind hget⟩

lemma exists_made {a : Identity} {info : PoolInfo} (hmade : (a, info) ∈ book.made) :
    ∃ pool, s.heap.get? (place a) = some pool ∧ PoolInfo.of pool = info := by
  rw [hplace a (List.mem_map.mpr ⟨_, hmade, rfl⟩)]
  exact h.exists_get? hmade

/-- All names of a pool show what a request under one of them has left. -/
lemma served {command : PoolCommand} {on : String} {request : Pool.Request} {a : Identity}
    (hreq : command.request? s = some (on, request)) (ha : book.pools.find? on = some a) :
    ∃ pool, s.heap.get? (place a) = some pool ∧
      let t := (command.step s).session
      t.heap.get? (place a) = some (pool.serve request).state ∧
      (∀ name, book.pools.find? name = some a → t.pool? name = some (pool.serve request).state) ∧
      t.pools = s.pools ∧ t.registries = s.registries := by
  obtain ⟨pool, hheld⟩ := h.exists_held hplace ha
  have hget := get?_of_handled? hheld
  have hholdings := holdings_of_request hreq hheld
  have hpools : (command.step s).session.pools = s.pools := congrArg Holdings.pools hholdings
  have hheap : (command.step s).session.heap.get? (place a) =
      some (pool.serve request).state := by
    rw [show (command.step s).session.heap = _ from congrArg Holdings.heap hholdings]
    exact Heap.get?_set_self hget _
  refine ⟨pool, hget, hheap, fun name hname => ?_, hpools, congrArg Holdings.registries hholdings⟩
  obtain ⟨_, hheld⟩ := h.exists_held hplace hname
  rw [pool?, handled?_of_get? (hpools ▸ find?_of_handled? hheld) hheap]
  rfl

lemma shares (hinjective : Function.Injective place) : Shares place book s := by
  have hregistry := h.find?_registries_place hplace
  constructor
  case pools_eq => exact h.pools_place hplace
  case registries_eq => exact h.registries_place hplace
  case held => exact fun name a ha => h.exists_held hplace ha
  case registered =>
    intro name deed hdeed
    obtain ⟨hpos, hmade⟩ := h.registries_made.find? hdeed
    simp only [Registry.slabCapacity?, Registry.preferred, Deed.defaultOrder_registry,
      Deed.get_registry]
    refine ⟨hpos, ?_, fun order => ?_⟩
    · obtain ⟨pool, hget, hinfo⟩ := h.exists_made hplace (hmade deed.settings.defaultOrder)
      rw [hget]
      exact congrArg some (congrArg PoolInfo.slabCapacity hinfo)
    · obtain ⟨pool, hget, hinfo⟩ := h.exists_made hplace (hmade order)
      exact ⟨pool, hget, congrArg PoolInfo.defaultOrder hinfo,
        congrArg PoolInfo.slabCapacity hinfo⟩
  case distinct =>
    intro on on' registry registry' hon hon' order order'
    rw [hregistry, Option.map_eq_some_iff] at hon hon'
    obtain ⟨deed, hdeed, rfl⟩ := hon
    obtain ⟨deed', hdeed', rfl⟩ := hon'
    simp only [hdeed, hdeed', Deed.get_registry, hinjective.eq_iff, Deed.pool, Identity.mk.injEq,
      Option.some.injEq, Option.map_some]
  case cloned =>
    intro on deed name hdeed
    simp only [Session.step, RegistryCommand.step, hregistry, hdeed, Option.map_some, need,
      RegistryCommand.keep, session_ask, Names.find?_insert_self]
  case got =>
    intro on deed order name hdeed
    simp only [Session.step, RegistryCommand.step, hregistry, hdeed, Option.map_some, need,
      RegistryCommand.hold, session_ask, Names.find?_insert_self]
  case lookups =>
    intro on deed name hdeed
    refine ⟨fun order => rfl, ?_⟩
    simp only [Session.step, RegistryCommand.step, hregistry, hdeed, Option.map_some, need]
    rfl
  case served =>
    intro command on request a hreq ha
    cases command with
    | pool command => exact h.served hplace hreq ha
    | _ => cases hreq
  case apart =>
    intro command b pool hasks hget
    refine get?_step (fun on request hreq hfind => ?_) hget
    rw [h.pools_place hplace, Names.find?_map, Option.map_eq_some_iff] at hfind
    obtain ⟨a, ha, hplaced⟩ := hfind
    exact hasks on request hreq (hinjective hplaced ▸ ha)

end Book.Tracks

/-- At all points of a run every pool is in its own place. -/
lemma exists_shares (commands : List Command) : ∃ place : Identity → Handle,
    Function.Injective place ∧ ∀ point ∈ points {} {} commands, Shares place point.1 point.2 := by
  obtain ⟨place, hinjective, hplace⟩ := (Book.after {} commands).exists_injective_place
  refine ⟨place, hinjective, fun point hpoint => ?_⟩
  have htracks := tracks_points Book.tracks_empty commands point hpoint
  have hmade := Book.made_of_mem_points hpoint
  refine htracks.shares (fun a ha => ?_) hinjective
  rw [hplace a (List.IsPrefix.subset (hmade.map Prod.fst) ha), Book.place_of_prefix hmade ha]

end BytePool.Session
