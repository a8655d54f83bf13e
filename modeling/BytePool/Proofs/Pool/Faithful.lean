import BytePool.Proofs.Pool.Journal
import BytePool.Proofs.Pool.Projection

/-!
# Faithful journals

The events of a run tell of all that a pool counts but empty buffers, in the sequence in which it
happens, and what an event says of the past is what the journal before it comes to.
-/
namespace BytePool

/-- What an event says is so, by what the arena of its order showed before it. -/
def Event.Truthful (s : Arena.Snapshot) : Event → Prop
  | slabInstalled _ slab capacity =>
    s.currentSlab = none ∧ slab = 1 ∧ capacity = s.slabCapacity
  | slabRollover _ slab abandoned abandonedCursor capacity request =>
    s.currentSlab = some abandoned ∧ s.cursor = abandonedCursor ∧ slab = abandoned + 1 ∧
      capacity = s.slabCapacity ∧ capacity < abandonedCursor + request
  | sliceCarved _ slab offset length =>
    s.currentSlab = some slab ∧ 0 < length ∧ offset + length ≤ s.slabCapacity
  | dedicated _ capacity slabCapacity =>
    slabCapacity = s.slabCapacity ∧ slabCapacity ≤ capacity
  | regionWrapped _ _ _ => True
  | regionCopied _ length _ => 0 < length

/-- The event is about the slabs of an order. -/
def Event.IsOf (o : ByteOrder) (e : Event) : Prop :=
  e.order = o ∧ ∀ c : Counters, c.note e = c

namespace Pool

/-- The statistics of which events tell: nothing is sent for the shared empty buffer. -/
def Stats.told (s : Stats) : Stats := { s with counters := { s.counters with emptyReturns := 0 } }

/-- From some statistics to others by events that are truthful one after the other. -/
inductive Tells : Stats → List Event → Stats → Prop
  | nil (s : Stats) : Tells s [] s
  | cons {s t : Stats} {e : Event} {events : List Event}
      (h : e.Truthful (s.arenas.get e.order)) (rest : Tells (s.note e) events t) :
      Tells s (e :: events) t

namespace Tells
variable {s t u : Stats} {events later : List Event}

lemma single {e : Event} (h : e.Truthful (s.arenas.get e.order)) (ht : s.note e = t) :
    Tells s [e] t :=
  ht ▸ .cons h (.nil _)

lemma append (h : Tells s events t) (hlater : Tells t later u) : Tells s (events ++ later) u := by
  induction h with
  | nil s => exact hlater
  | cons h rest ih => exact .cons h (ih hlater)

lemma foldl_note (h : Tells s events t) : events.foldl Stats.note s = t := by
  induction h with
  | nil s => rfl
  | cons h rest ih => exact ih

lemma truthful (h : Tells s events t) {before : List Event} {e : Event}
    (hevents : before ++ [e] <+: events) :
    e.Truthful ((before.foldl Stats.note s).arenas.get e.order) := by
  induction h generalizing before with
  | nil s => simp at hevents
  | cons h rest ih =>
    cases before with
    | nil =>
      obtain ⟨rfl, -⟩ := List.cons_prefix_cons.mp hevents
      exact h
    | cons first before =>
      obtain ⟨rfl, hrest⟩ := List.cons_prefix_cons.mp hevents
      exact ih hrest

end Tells

/-- The events of a reply tell of all that the pool counts of it. -/
def Told (pool : Pool) (reply : Reply Pool Buffer) : Prop :=
  Tells pool.stats.told reply.events reply.state.stats.told

namespace Told
variable {pool : Pool} {reply : Reply Pool Buffer}

lemma silent (hevents : reply.events = []) (hstats : reply.state.stats.told = pool.stats.told) :
    Told pool reply := by
  rw [Told, hevents, hstats]
  exact .nil _

/-- A reply tells of what its parts tell of. -/
lemma bind {next : Pool → Buffer → Reply Pool Buffer} (h : Told pool reply)
    (hnext : ∀ pool b, Told pool (next pool b)) : Told pool (reply.bind next) := by
  cases ho : reply.outcome with
  | error failure =>
    rw [Reply.bind_of_error ho]
    exact h
  | ok b =>
    rw [Reply.bind_of_ok ho]
    exact h.append (hnext reply.state b)

end Told

/-! ### Slices -/

lemma Stats.note_of_isOf {o : ByteOrder} {e : Event} (h : e.IsOf o) (s : Stats) :
    s.note e = { s with arenas := s.arenas.set o ((s.arenas.get o).note e) } := by
  obtain ⟨rfl, hc⟩ := h
  simp [note, PerOrder.modify, hc]

section Arena
variable {arena : Arena} {n : Nat}

lemma isOf_installEvent (slab : Slab) : (arena.installEvent slab n).IsOf arena.order := by
  unfold Arena.installEvent
  split <;> exact ⟨rfl, fun _ => rfl⟩

lemma note_installEvent (slab : Slab) :
    arena.snapshot.note (arena.installEvent slab n) =
      { arena.snapshot with
        currentSlab := some slab.id
        slabsAllocated := arena.slabsAllocated + 1 } := by
  unfold Arena.installEvent
  split <;> rfl

/-- A new slab says truly which slab it takes the place of, and that there was no room in it. -/
lemma truthful_installEvent (h : arena.Sound) (hmax : arena.slabCapacity ≤ maxAllocation)
    (hf : arena.fitting n = none) (slab : Slab) (hslab : slab.id = arena.slabsAllocated + 1) :
    (arena.installEvent slab n).Truthful arena.snapshot := by
  cases hc : arena.current with
  | none =>
    simp [Arena.installEvent, hc, Event.Truthful, Arena.snapshot, hslab, h.unused hc hmax]
  | some old =>
    have hcap : old.cursor + old.remaining = arena.slabCapacity := h.capacity_eq old hc
    have hroom : old.remaining < n := by simpa [Arena.fitting, hc] using hf
    have hlt : arena.slabCapacity < old.cursor + n := by omega
    simp [Arena.installEvent, hc, Event.Truthful, Arena.snapshot, hslab, h.id_eq old hc, hlt]

/-- One event for the slice, and before it one for the slab if there is a new one. -/
lemma carve_tells (h : arena.Sound) (hmax : arena.slabCapacity ≤ maxAllocation) (hpos : 0 < n)
    (hle : n ≤ arena.slabCapacity) :
    (∃ e, (arena.carve n).events = [e] ∧ e.IsOf arena.order ∧ e.Truthful arena.snapshot ∧
        arena.snapshot.note e = (arena.carve n).state.snapshot) ∨
      ∃ e f, (arena.carve n).events = [e, f] ∧ e.IsOf arena.order ∧ f.IsOf arena.order ∧
        e.Truthful arena.snapshot ∧ f.Truthful (arena.snapshot.note e) ∧
        (arena.snapshot.note e).note f = (arena.carve n).state.snapshot := by
  cases hf : arena.fitting n with
  | some slab =>
    obtain ⟨hc, hroom⟩ := Option.filter_eq_some_iff.mp hf
    have hcap : slab.cursor + slab.remaining = arena.slabCapacity := h.capacity_eq slab hc
    have hroom : n ≤ slab.remaining := by simpa using hroom
    rw [Arena.carve_of_fitting hf]
    refine .inl ⟨_, rfl, ⟨rfl, fun _ => rfl⟩, ⟨?_, hpos, ?_⟩, ?_⟩
    · simp [Arena.snapshot, hc]
    · simp only [Arena.snapshot]
      omega
    · simp [Arena.snapshot, Arena.Snapshot.note, Arena.issue, Slab.carve, Reply.emit, Reply.done,
        hc]
  | none =>
    rw [Arena.carve_of_install hf hmax]
    refine .inr ⟨_, _, rfl, isOf_installEvent _, ⟨rfl, fun _ => rfl⟩,
      truthful_installEvent h hmax hf _ rfl, ?_, ?_⟩
    · rw [note_installEvent]
      exact ⟨rfl, hpos, by simpa [Arena.snapshot] using hle⟩
    · rw [note_installEvent]
      rfl

end Arena

lemma told_setArena (pool : Pool) (o : ByteOrder) (arena : Arena) :
    (pool.setArena o arena).stats.told =
      { pool.stats.told with arenas := pool.stats.told.arenas.set o arena.snapshot } := by
  simp only [Stats.told, stats, setArena, Stats.mk.injEq, true_and]
  ext p
  by_cases hp : p = o
  · subst hp
    simp [snapshot]
  · simp [snapshot, PerOrder.get_set_of_ne _ hp]

/-! ### Requests -/

section Request
variable {pool : Pool}

lemma get_told (pool : Pool) (o : ByteOrder) :
    pool.stats.told.arenas.get o = (pool.arenas.get o).snapshot :=
  PerOrder.get_ofFn _ o

/-- What is counted beside the arenas has an event of its own. -/
lemma count_tells {f : Counters → Counters} {e : Event} (hs : ∀ s : Arena.Snapshot, s.note e = s)
    (hf : ∀ c : Counters, ({ c with emptyReturns := 0 } : Counters).note e =
      { f c with emptyReturns := 0 })
    (h : e.Truthful (pool.arenas.get e.order).snapshot) :
    Tells pool.stats.told [e] (pool.count f).stats.told := by
  refine .single (by rwa [get_told]) ?_
  simp only [Stats.note, PerOrder.modify, hs, PerOrder.set_get_self]
  exact congrArg (Stats.mk · pool.stats.arenas) (hf pool.counters)

variable (h : pool.Sound) (hmax : pool.slabCapacity ≤ maxAllocation)
include h hmax

lemma told_carved {o : ByteOrder} {n : Nat} (hpos : 0 < n) (hlt : n < pool.slabCapacity) :
    Told pool (pool.carved o n) := by
  have hcap := h.slabCapacity_eq o
  have hstate : (pool.carved o n).state =
      pool.setArena o ((pool.arenas.get o).carve n).state := rfl
  have hevents : (pool.carved o n).events = ((pool.arenas.get o).carve n).events := rfl
  have hcarve := carve_tells (h.arena o) (by rwa [hcap]) hpos (by omega)
  rw [h.order_eq o] at hcarve
  rw [Told, hstate, hevents, told_setArena]
  obtain ⟨e, he, hof, htrue, hnote⟩ | ⟨e, f, hef, hofe, hoff, htruee, htruef, hnote⟩ := hcarve
  · rw [he]
    refine .single ?_ ?_
    · rwa [hof.1, get_told]
    · rw [Stats.note_of_isOf hof, get_told, hnote]
  · rw [hef]
    refine .cons ?_ (.single ?_ ?_)
    · rwa [hofe.1, get_told]
    · rwa [Stats.note_of_isOf hofe, hoff.1, PerOrder.get_set_self, get_told]
    · rw [Stats.note_of_isOf hofe, Stats.note_of_isOf hoff, PerOrder.get_set_self,
        PerOrder.set_set, get_told, hnote]

lemma told_buffer (o : ByteOrder) (n : Nat) : Told pool (pool.buffer o n) := by
  obtain rfl | hpos := Nat.eq_zero_or_pos n
  · exact .silent rfl rfl
  by_cases hc : pool.slabCapacity ≤ n
  · have hevents : (pool.dedicated o n).events = [.dedicated o n pool.slabCapacity] := by
      unfold dedicated
      split <;> rfl
    rw [buffer_of_slabCapacity_le o hpos hc, Told, (dedicated_spec pool o n).1, hevents]
    exact count_tells (fun _ => rfl) (fun _ => rfl) ⟨(h.slabCapacity_eq o).symm, hc⟩
  · have hlt := Nat.lt_of_not_le hc
    rw [buffer_of_lt_slabCapacity o hpos hlt]
    exact told_carved h hmax hpos hlt

omit h hmax in
lemma told_finish (request : Request) (pool : Pool) (b : Buffer) :
    Told pool (request.finish pool b) := by
  have hregion (region : Region) : Told pool (Request.finishRegion region pool b) := by
    unfold Request.finishRegion
    split
    case isTrue => exact .silent rfl rfl
    case isFalse hne =>
      exact count_tells (fun _ => rfl) (fun _ => rfl) (Nat.pos_of_ne_zero hne)
  cases request with
  | adoptRegion region | copyRegion region => exact hregion region
  | _ => exact .silent rfl rfl

lemma told_serve (request : Request) : Told pool (pool.serve request) := by
  by_cases hex : request.exceeds = true
  · obtain ⟨e, hserve⟩ := serve_of_exceeds pool request hex
    rw [hserve]
    exact .silent rfl rfl
  by_cases hover : request.handsOver = true
  · obtain ⟨region, spare, -, -, hserve⟩ := serve_of_handsOver pool request hover
    rw [hserve]
    exact count_tells (fun _ => rfl) (fun _ => rfl) trivial
  rw [Bool.not_eq_true] at hex hover
  rw [serve_eq_bind pool request hex hover]
  exact (told_buffer h hmax _ _).bind (told_finish request)

lemma run_tells (requests : List Request) :
    Tells pool.stats.told (pool.run requests).events (pool.run requests).state.stats.told := by
  induction requests generalizing pool with
  | nil => exact .nil _
  | cons request requests ih =>
    have hcap := (frame_serve pool request).2
    exact (told_serve h hmax request).append (ih (h.serve request) (by rwa [hcap]))

end Request

/-! ### Runs -/

theorem events_run_append (pool : Pool) (first later : List Request) :
    (pool.run (first ++ later)).events =
      (pool.run first).events ++ ((pool.run first).state.run later).events := by
  induction first generalizing pool with
  | nil => rfl
  | cons request requests ih => simp [run, ih, List.append_assoc]

/-- The journal of a run and the statistics of the pool tell the same. -/
structure Journaled (slabCapacity : Nat) (pool : Pool) (requests : List Request) : Prop where
  /-- After every request the journal has grown, and the statistics are what it comes to. -/
  stats_eq : ∀ served, served <+: requests →
    (pool.run served).events <+: (pool.run requests).events ∧
      (pool.run served).events.foldl Stats.note pool.stats = (pool.run served).state.stats.told ∧
      (pool.run served).state.stats.told = .ofJournal slabCapacity (pool.run served).events
  /-- An event is true of what the journal before it comes to. -/
  truthful : ∀ before e, before ++ [e] <+: (pool.run requests).events →
    e.Truthful (.ofJournal e.order slabCapacity before)
  /-- Before the first slab of an order there was none. -/
  first_slab : ∀ before o slab capacity,
    before ++ [.slabInstalled o slab capacity] <+: (pool.run requests).events →
      before.filterMap (Event.newSlab? o) = []

/-- The events of every run of a fresh pool are a faithful journal of its statistics. -/
theorem run_journaled {defaultOrder : ByteOrder} {slabCapacity : Nat} {pool : Pool}
    (hpool : Pool.new defaultOrder slabCapacity = .ok pool) (hmax : slabCapacity ≤ maxAllocation)
    (requests : List Request) : Journaled slabCapacity pool requests := by
  obtain ⟨rfl, -⟩ := eq_fresh_of_new hpool
  have htells (requests : List Request) :=
    run_tells (sound_fresh_pool defaultOrder slabCapacity) hmax requests
  have hfresh : (fresh defaultOrder slabCapacity).stats = .ofJournal slabCapacity [] := rfl
  have htruthful : ∀ before e,
      before ++ [e] <+: ((fresh defaultOrder slabCapacity).run requests).events →
        e.Truthful (.ofJournal e.order slabCapacity before) := by
    intro before e hevents
    have htrue := (htells requests).truthful hevents
    have hfold := Stats.foldl_note_eq_ofJournal slabCapacity before
    rw [← hfresh] at hfold
    change e.Truthful ((before.foldl Stats.note (fresh defaultOrder slabCapacity).stats).arenas.get
      e.order) at htrue
    rwa [hfold, Stats.ofJournal, PerOrder.get_ofFn] at htrue
  refine ⟨?_, htruthful, ?_⟩
  · rintro served ⟨later, rfl⟩
    have hfold := (htells served).foldl_note
    refine ⟨?_, hfold, ?_⟩
    · rw [events_run_append]
      exact List.prefix_append _ _
    · rw [← hfold]
      exact Stats.foldl_note_eq_ofJournal slabCapacity _
  · intro before o slab capacity hevents
    obtain ⟨hnone, -⟩ := htruthful before _ hevents
    exact List.getLast?_eq_none_iff.mp hnone

/-- Two slices of which the second finds no room, an empty buffer, memory of its own and a copy of a
region: the journal, what it comes to, and what it says of the slab that was left. -/
theorem run_journaled_of_five :
    let requests : List Request := [.buffer .little 3, .buffer .little 2, .defaultBuffer 0,
      .buffer .big 9, .copyRegion { storage := .heap, order := .big, bytes := [1, 2] }]
    let before : List Event := [.slabInstalled .little 1 4, .sliceCarved .little 1 0 3]
    let after : List Event := [.sliceCarved .little 2 0 2, .dedicated .big 9 4,
      .slabInstalled .big 1 4, .sliceCarved .big 1 0 2, .regionCopied .big 2 0]
    let journal := before ++ .slabRollover .little 2 1 3 4 2 :: after
    Pool.new .big 4 = .ok (fresh .big 4) ∧ 4 ≤ maxAllocation ∧
      ((fresh .big 4).run requests).events = journal ∧
      ((fresh .big 4).run requests).state.stats.told = .ofJournal 4 journal ∧
      (Event.slabRollover .little 2 1 3 4 2).Truthful (.ofJournal .little 4 before) := by
  intro requests before after journal
  have hpool : Pool.new .big 4 = .ok (fresh .big 4) := rfl
  have hmax : 4 ≤ maxAllocation := by decide
  have hevents : ((fresh .big 4).run requests).events = journal := by decide
  have h := run_journaled hpool hmax requests
  refine ⟨hpool, hmax, hevents, ?_, ?_⟩
  · rw [← hevents]
    exact (h.stats_eq requests (List.prefix_refl _)).2.2
  · refine h.truthful before (.slabRollover .little 2 1 3 4 2) ?_
    rw [hevents]
    exact ⟨after, by simp [journal]⟩

end Pool
end BytePool
