import BytePool.Proofs.Checked.Session

/-!
# Steps with checks

As long as the counters of the arenas and the bytes of the buffers stay within their bounds, no step
meets a check that fails, and every step does what the unchecked one does.
-/
namespace BytePool

/-- The bytes of a source fit into memory. -/
def Session.Source.Fits : Session.Source → Prop
  | .data bytes => bytes.length ≤ maxAllocation
  | .chunk _ | .frozen _ => True

namespace Checked
open BytePool.Session (Answer Command Source Names)

/-- No check fails, and the turn is the one that a session without checks takes. -/
def Turn.Follows (attempt : Except Fault Turn) (turn : BytePool.Session.Turn) : Prop :=
  ∃ done, attempt = .ok done ∧ done.session.Sound ∧ turn = done.view

namespace Turn.Follows
variable {s : Session} (h : s.Sound)
include h

lemma answer (a : Answer) : Follows (Session.answer a s) (.answer a s.view) := ⟨_, rfl, h, rfl⟩

lemma answer_of (a : Answer) {t : BytePool.Session} (ht : s.view = t) :
    Follows (Session.answer a s) (.answer a t) :=
  ht ▸ answer h a

lemma need {α β : Type} {found : Option α} {found' : Option β} {f : α → β}
    (hfound : found' = found.map f) (name : String) {next : α → Except Fault Turn}
    {next' : β → BytePool.Session.Turn}
    (hnext : ∀ object, found = some object → Follows (next object) (next' (f object))) :
    Follows (s.need found name next) (s.view.need found' name next') := by
  subst hfound
  cases found with
  | none => exact ⟨_, rfl, h, rfl⟩
  | some object => exact hnext object rfl

lemma use (source : Source) {next : Session → List UInt8 → Except Fault Turn}
    {next' : BytePool.Session → List UInt8 → BytePool.Session.Turn}
    (hdata : ∀ bytes, source = .data bytes → bytes.length ≤ maxAllocation)
    (hnext : ∀ (t : Session) bytes, t.Sound → bytes.length ≤ maxAllocation →
      Follows (next t bytes) (next' t.view bytes)) :
    Follows (s.use source next) (source.use s.view next') := by
  cases source with
  | data bytes => exact hnext s bytes h (hdata bytes rfl)
  | chunk name =>
    refine need h (f := id) (by simp [Session.view]) name fun chunk hfind => ?_
    exact hnext _ _ { h with chunks := h.chunks.erase name } (h.chunks.find? hfind)
  | frozen name =>
    refine need h (f := id) (by simp [Session.view]) name fun bytes hfind => ?_
    exact hnext s bytes h (h.frozen.find? hfind)

omit h in
lemma ofAttempt {σ τ α β : Type} {A : Abstraction σ τ} {B : Abstraction α β}
    {attempt : Attempt σ α} {reply : Reply τ β} (hreply : attempt.Follows A B reply)
    {keep : σ → Session} {keep' : τ → BytePool.Session}
    (hkeep : ∀ state, A.Sound state →
      (keep state).Sound ∧ (keep state).view = keep' (A.view state))
    {next : Session → α → Except Fault (Answer × Session)}
    {next' : BytePool.Session → β → Answer × BytePool.Session}
    (hnext : ∀ (t : Session) value, t.Sound → B.Sound value → ∃ a u, next t value = .ok (a, u) ∧
      u.Sound ∧ next' t.view (B.view value) = (a, u.view)) :
    Follows (Session.ofAttempt attempt keep next) (.ofReply reply keep' next') := by
  obtain ⟨⟨outcome, state, events⟩, rfl, hs, hv, rfl⟩ := hreply
  obtain ⟨hsound, hview⟩ := hkeep state hs
  cases outcome with
  | error failure =>
    refine ⟨_, rfl, hsound, ?_⟩
    simp [BytePool.Session.Turn.ofReply, Reply.map, Reply.within, Except.map, Turn.view, hview]
  | ok value =>
    obtain ⟨a, u, heq, hu, hrun⟩ := hnext (keep state) value hsound (hv value rfl)
    refine ⟨⟨.ok a, u, events⟩, ?_, hu, ?_⟩
    · simp [Session.ofAttempt, Except.bind, Except.map, heq]
    · simp [BytePool.Session.Turn.ofReply, Reply.map, Reply.within, Except.map, Turn.view, ← hview,
        hrun]

end Turn.Follows

namespace Session

/-! ### Objects of a session -/

section
variable {s : Session} (h : s.Sound)
include h

lemma Sound.shown_eq : s.shown = .ok s.view := by
  rw [shown, mapM_eq_ok fun pool hpool => Pool.shown_eq (h.pools pool hpool),
    Names.mapM_eq (fun _ hb => Buffer.Sound.shown_eq hb) h.buffers,
    Names.mapM_eq (fun _ hr => Region.shown_eq hr) h.regions,
    Names.mapM_eq (fun _ ha => Arena.shown_eq ha) h.arenas,
    Names.mapM_eq (fun _ hs => Slab.shown_eq hs) h.slabs]
  simp only [bind, Except.bind, pure, Except.pure, view, Names.map_same]

lemma Sound.putBuffer (name : String) {b : Buffer} (hb : b.Sound) : (s.putBuffer name b).Sound :=
  { h with buffers := h.buffers.insert name hb }

lemma Sound.putRegion (name : String) {region : BytePool.Region} (hr : region.Sound) :
    (s.putRegion name region).Sound :=
  { h with regions := h.regions.insert name hr }

lemma Sound.putPool (handle : Handle) {pool : Pool} (hp : pool.Sound) :
    (s.putPool handle pool).Sound :=
  { h with
    pools := fun other hother =>
      (List.mem_or_eq_of_mem_set hother).elim (h.pools other) fun heq => heq ▸ hp
    registries := by simpa [Session.putPool] using h.registries }

lemma keepBuffer_eq (name : String) {b : Buffer} (hb : b.Sound) :
    ∃ a u, keepBuffer name s b = .ok (a, u) ∧ u.Sound ∧
      BytePool.Session.keepBuffer name s.view b.view = (a, u.view) := by
  refine ⟨.buffer b.view, s.putBuffer name b, ?_, h.putBuffer name hb, ?_⟩
  · rw [keepBuffer, hb.shown_eq]
    rfl
  · simp [BytePool.Session.keepBuffer, BytePool.Session.putBuffer, putBuffer, view,
      Names.insert_map]

omit h in
lemma handled?_view (name : String) :
    s.view.handled? name = (s.handled? name).map fun held => (held.1, held.2.view) := by
  simp only [BytePool.Session.handled?, handled?, view, Heap.get?, List.getElem?_map]
  cases s.handles.find? name with
  | none => rfl
  | some handle => cases h : s.pools[handle]? <;> simp [h]

lemma pool_of_handled? {name : String} {handle : Handle} {pool : Pool}
    (hheld : s.handled? name = some (handle, pool)) : pool.Sound := by
  simp only [handled?, Option.bind_eq_bind, Option.bind_eq_some_iff, Option.pure_def,
    Option.some.injEq, Prod.mk.injEq] at hheld
  obtain ⟨_, -, _, hget, rfl, rfl⟩ := hheld
  exact h.pools _ (List.mem_of_getElem? hget)

/-- New pools are sound, and stand for the pools that are new without checks. -/
lemma extend_eq {t : BytePool.Session} (hext : s.view.Extends t) :
    (s.extend t).Sound ∧ (s.extend t).view = t := by
  obtain ⟨⟨fresh, hfresh, heq⟩, hregistries⟩ := hext
  have hdrop : t.heap.pools.drop s.pools.length = fresh := by
    rw [heq]
    simp [view]
  have hstart : (fresh.map Pool.start).map Pool.view = fresh := by
    rw [List.map_map]
    refine (List.map_congr_left fun pool hpool => ?_).trans (List.map_id fresh)
    obtain ⟨order, slabCapacity, -, rfl⟩ := hfresh pool hpool
    exact Pool.view_start order slabCapacity
  -- A new pool is stored without any slab, and that is how it is shown.
  have hview : (s.extend t).view = t := by
    refine Eq.trans ?_ heq.symm
    simp [extend, view, hdrop, hstart]
  refine ⟨{ h with pools := fun pool hpool => ?_, registries := ?_ }, hview⟩
  · rw [extend, hdrop] at hpool
    obtain hpool | hpool := List.mem_append.mp hpool
    · exact h.pools pool hpool
    · obtain ⟨_, hnew, rfl⟩ := List.mem_map.mp hpool
      obtain ⟨order, slabCapacity, hpos, rfl⟩ := hfresh _ hnew
      exact Pool.sound_start hpos
  · have hlength : (s.extend t).view.heap.pools.length = (s.extend t).pools.length := by
      simp [view]
    rw [← hlength, hview]
    exact hregistries (by simpa [view] using h.registries)

/-- A step that touches no memory gives what it gives without checks. -/
lemma plain_follows {command : Command}
    (hext : s.view.Extends (s.view.step command).session) :
    Turn.Follows (s.plain command) (s.view.step command) := by
  obtain ⟨hsound, hview⟩ := extend_eq h hext
  refine ⟨_, by rw [plain, h.shown_eq]; rfl, hsound, ?_⟩
  simp only [Turn.view, hview]

end

/-! ### Views after a change -/

section
variable (s : Session) (name : String)

lemma view_putPool (handle : Handle) (pool : Pool) :
    (s.putPool handle pool).view = { s.view with heap := s.view.heap.set handle pool.view } := by
  simp [putPool, view, Heap.set, List.map_set]

lemma view_putBuffer (b : Buffer) :
    (s.putBuffer name b).view = s.view.putBuffer name b.view := by
  simp [putBuffer, view, BytePool.Session.putBuffer, Names.insert_map]

lemma view_insert_arena (arena : Arena) :
    view { s with arenas := s.arenas.insert name arena } =
      { s.view with arenas := s.view.arenas.insert name arena.view } := by
  simp [view, Names.insert_map]

lemma view_insert_slab (slab : Slab) :
    view { s with slabs := s.slabs.insert name slab } =
      { s.view with slabs := s.view.slabs.insert name slab.view } := by
  simp [view, Names.insert_map]

end

/-! ### Room for a step -/

/-- A command brings along no more than memory holds, and the counters and the buffers that it works
on have room for what it adds to them. -/
def Fits (s : Session) : Command → Prop
  | .pool (.request on asked _) =>
    Request.Sound asked ∧ ∀ handle pool, s.handled? on = some (handle, pool) → pool.HasRoomFor asked
  | .pool (.adoptRegion on region _) =>
    ∀ handle pool given, s.handled? on = some (handle, pool) →
      s.regions.find? region = some given → pool.HasRoomFor (.adoptRegion given)
  | .pool (.copyRegion on region _) =>
    ∀ handle pool given, s.handled? on = some (handle, pool) →
      s.regions.find? region = some given → pool.HasRoomFor (.copyRegion given)
  | .region (.new _ _ source _) | .buffer (.wrap _ source _) => source.Fits
  | .buffer (.perform on operation) =>
    ∀ b, s.buffers.find? on = some b → b.writerIndex + Buffer.written operation ≤ maxAllocation
  | .arena (.allocate on capacity _) =>
    ∀ arena, s.arenas.find? on = some arena → 0 < capacity → capacity ≤ arena.slabCapacity →
      arena.HasRoom capacity
  | _ => True

/-! ### Steps -/

section
variable {s : Session} (h : s.Sound)
include h

theorem pool_step_follows {command : BytePool.Session.PoolCommand}
    (hfits : s.Fits (.pool command)) :
    Turn.Follows (s.step (.pool command)) (s.view.step (.pool command)) := by
  cases command with
  | request on asked name =>
    obtain ⟨hasked, hroom⟩ := hfits
    refine .need h (handled?_view on) on fun (handle, pool) hheld => ?_
    have hreply := Pool.serve_follows (pool_of_handled? h hheld) hasked (hroom _ _ hheld)
    refine .ofAttempt hreply (fun pool hp => ⟨h.putPool handle hp, s.view_putPool handle pool⟩) ?_
    exact fun t b ht hb => keepBuffer_eq ht name hb
  | adoptRegion on region name =>
    refine .need h (handled?_view on) on fun (handle, pool) hheld => ?_
    refine .need h (f := id) (by simp [view]) region fun given hgiven => ?_
    have hreply : (pool.adoptRegion given).Follows Pool.stored Buffer.stored
        (pool.view.adoptRegion given) :=
      Pool.serve_follows (pool_of_handled? h hheld)
        (show Request.Sound (.adoptRegion given) from h.regions.find? hgiven)
        (hfits _ _ _ hheld hgiven)
    refine .ofAttempt hreply (fun pool hp => ⟨?_, ?_⟩) fun t b ht hb => keepBuffer_eq ht name hb
    · exact { h.putPool handle hp with regions := h.regions.erase region }
    · simp [view, putPool, Heap.set, List.map_set, Pool.stored]
  | copyRegion on region name =>
    refine .need h (handled?_view on) on fun (handle, pool) hheld => ?_
    refine .need h (f := id) (by simp [view]) region fun given hgiven => ?_
    have hreply := Pool.copyRegion_follows (pool_of_handled? h hheld) (h.regions.find? hgiven)
      (hfits _ _ _ hheld hgiven rfl rfl)
    refine .ofAttempt hreply (fun state hs => ⟨?_, ?_⟩) fun t b ht hb => keepBuffer_eq ht name hb
    · exact (h.putPool handle hs.1).putRegion region hs.2
    · simp [view, putPool, putRegion, Heap.set, List.map_set, Pool.stored, Abstraction.prod,
        Region.checked, Abstraction.such]
  | new order slabCapacity name =>
    exact plain_follows h (.keepPool (fun _ => Pool.isFresh_of_ofSettings) name)
  | standard name | ofOrder _ name =>
    refine plain_follows h (.keepPool (fun pool hpool => ?_) name)
    exact Except.ok.inj hpool ▸ Pool.isFresh_ofOrder _
  | ofSettings settings name =>
    exact plain_follows h (.keepPool (fun _ => Pool.isFresh_of_ofSettings) name)
  | ofToml document name =>
    refine plain_follows h (.keepPool (fun pool hpool => ?_) name)
    obtain ⟨settings, hmade⟩ := Settings.of_bind_eq_ok hpool
    exact Pool.isFresh_of_ofSettings hmade
  | same on other => exact plain_follows h (.need fun _ _ => .ask (.refl _))
  | drop on => exact plain_follows h (.names (fun _ h => h) _)
  | info on | stats on | snapshot on order | text on | statsText on =>
    exact plain_follows h (.ask (.refl _))

theorem registry_step_follows (command : BytePool.Session.RegistryCommand) :
    Turn.Follows (s.step (.registry command)) (s.view.step (.registry command)) := by
  have hheld {name : String} {registry : Registry}
      (hfind : s.registries.find? name = some registry) :
      registry.HoldsBelow s.view.heap.pools.length := by
    simpa [view] using h.registries.find? hfind
  apply plain_follows h
  cases command with
  | new slabCapacity name =>
    exact .keepNew (fun _ hnew =>
      Registry.adds_of_ofSettings ((Registry.new_eq ..).symm.trans hnew)) name
  | standard name =>
    exact .keepNew (fun _ hnew =>
      Registry.adds_of_ofSettings ((Registry.ok_standard _).symm.trans hnew)) name
  | ofSettings settings name => exact .keepNew (fun _ => Registry.adds_of_ofSettings) name
  | ofToml document name =>
    refine .keepNew (fun new hnew => ?_) name
    obtain ⟨settings, hmade⟩ := Settings.of_bind_eq_ok hnew
    exact Registry.adds_of_ofSettings hmade
  | clone on name => exact .need fun registry hfind => .keep (hheld hfind) name
  | get on order name | preferred on name => exact .need fun registry _ => .hold name _
  | resolve on order name =>
    refine .need fun registry _ => ?_
    cases order with
    | none => exact .refl _
    | some order => exact .hold name _
  | drop on => exact .names (fun _ h => h.erase on) _
  | info on | text on => exact .ask (.refl _)

theorem region_step_follows {command : BytePool.Session.RegionCommand}
    (hfits : s.Fits (.region command)) :
    Turn.Follows (s.step (.region command)) (s.view.step (.region command)) := by
  have hfind (on : String) : s.view.regions.find? on = (s.regions.find? on).map id := by
    simp [view]
  cases command with
  | new storage order source name =>
    simp only [step, BytePool.Session.step, BytePool.Session.RegionCommand.step]
    refine .use h source ?_ fun t bytes ht hbytes => ?_
    · rintro bytes rfl
      exact hfits
    · have hregion := BytePool.Region.sound_new storage order hbytes
      simp only [Region.shown_eq hregion, Except.bind]
      exact .answer (ht.putRegion name hregion) _
  | setPosition on position =>
    refine .need h (hfind on) on fun region hregion => ?_
    have hsound := (h.regions.find? hregion).setPosition position
    exact .ofAttempt (.of_reply hsound) (fun region hr => ⟨h.putRegion on hr, rfl⟩)
      fun t _ ht _ => ⟨_, _, rfl, ht, rfl⟩
  | setMark on =>
    refine .need h (hfind on) on fun region hregion => ?_
    exact .answer (h.putRegion on (h.regions.find? hregion).setMark) _
  | reset on =>
    refine .need h (hfind on) on fun region hregion => ?_
    have hsound := (h.regions.find? hregion).reset
    exact .ofAttempt (.of_reply hsound) (fun region hr => ⟨h.putRegion on hr, rfl⟩)
      fun t _ ht _ => ⟨_, _, rfl, ht, rfl⟩
  | info on | readable on | text on => exact plain_follows h (.ask (.refl _))

theorem buffer_step_follows {command : BytePool.Session.BufferCommand}
    (hfits : s.Fits (.buffer command)) :
    Turn.Follows (s.step (.buffer command)) (s.view.step (.buffer command)) := by
  have hfind (on : String) : s.view.buffers.find? on = (s.buffers.find? on).map Buffer.view := by
    simp [view, Names.find?_map]
  cases command with
  | empty name =>
    have hanswer := Turn.Follows.answer (h.putBuffer name Buffer.sound_empty) (.buffer .empty)
    rw [view_putBuffer] at hanswer
    simp only [step, Buffer.sound_empty.shown_eq, Except.bind]
    exact hanswer
  | wrap order source name =>
    simp only [step, BytePool.Session.step, BytePool.Session.BufferCommand.step]
    refine .use h source ?_ fun t bytes ht hbytes => ?_
    · rintro bytes rfl
      exact hfits
    · obtain ⟨b, hwrap, hb, hview⟩ := Buffer.wrapFrom_eq order 0 (Nat.zero_le _) hbytes
      have hanswer := Turn.Follows.answer (ht.putBuffer name hb) (.buffer b.view)
      rw [view_putBuffer, hview] at hanswer
      simp only [hwrap, hb.shown_eq, hview, Except.bind]
      exact hanswer
  | perform on operation =>
    refine .need h (hfind on) on fun b hfound => ?_
    have hreply := Buffer.perform_follows (h.buffers.find? hfound) operation (hfits b hfound)
    exact .ofAttempt hreply (fun b hb => ⟨h.putBuffer on hb, s.view_putBuffer on b⟩)
      fun t _ ht _ => ⟨_, _, rfl, ht, rfl⟩
  | freeze on name =>
    refine .need h (hfind on) on fun b hfound => ?_
    have hb := h.buffers.find? hfound
    simp only [hb.freeze_eq, Except.bind]
    refine .answer_of ?_ _ ?_
    · exact { h with
        buffers := h.buffers.erase on
        frozen := h.frozen.insert name hb.length_freeze_le }
    · simp [view, Names.erase_map]
  | drop on =>
    simp only [step, ← Names.contains_map Buffer.view s.buffers]
    refine .answer_of ?_ _ ?_
    · exact { h with buffers := h.buffers.erase on }
    · simp [view, Names.erase_map]
  | info on | bytes on | text on => exact plain_follows h (.ask (.refl _))

theorem arena_step_follows {command : BytePool.Session.ArenaCommand}
    (hfits : s.Fits (.arena command)) :
    Turn.Follows (s.step (.arena command)) (s.view.step (.arena command)) := by
  have hfind (on : String) : s.view.arenas.find? on = (s.arenas.find? on).map Arena.view := by
    simp [view, Names.find?_map]
  cases command with
  | new order slabCapacity name =>
    simp only [step, BytePool.Session.step, BytePool.Session.ArenaCommand.step,
      BytePool.Arena.new]
    by_cases hzero : slabCapacity = 0
    · rw [if_pos hzero]
      exact ⟨_, rfl, h, rfl⟩
    · have harena : Arena.Sound { order, slabCapacity } := ⟨Nat.pos_of_ne_zero hzero, by simp⟩
      rw [if_neg hzero]
      refine .answer_of ?_ _ (s.view_insert_arena name _)
      exact { h with arenas := h.arenas.insert name harena }
  | allocate on capacity name =>
    refine .need h (hfind on) on fun arena hfound => ?_
    have hreply := Arena.allocate_follows (h.arenas.find? hfound) capacity (hfits arena hfound)
    refine .ofAttempt hreply (fun arena ha => ⟨?_, s.view_insert_arena on arena⟩)
      fun t b ht hb => keepBuffer_eq ht name hb.1
    exact { h with arenas := h.arenas.insert on ha.1 }
  | drop on =>
    simp only [step, ← Names.contains_map Arena.view s.arenas]
    refine .answer_of ?_ _ ?_
    · exact { h with arenas := h.arenas.erase on }
    · simp [view, Names.erase_map]
  | snapshot on | text on => exact plain_follows h (.ask (.refl _))

theorem slab_step_follows (command : BytePool.Session.SlabCommand) :
    Turn.Follows (s.step (.slab command)) (s.view.step (.slab command)) := by
  have hfind (on : String) : s.view.slabs.find? on = (s.slabs.find? on).map Slab.view := by
    simp [view, Names.find?_map]
  cases command with
  | allocate id capacity name =>
    simp only [step, BytePool.Session.step, BytePool.Session.SlabCommand.step]
    obtain ⟨slab, heq, hslab, -, hrun⟩ | ⟨heq, hrun⟩ := Slab.allocate_eq id capacity
    · simp only [heq, hrun, Slab.shown_eq hslab, Except.bind]
      refine .answer_of ?_ _ (s.view_insert_slab name slab)
      exact { h with slabs := h.slabs.insert name hslab }
    · simp only [heq, hrun]
      exact ⟨_, rfl, h, rfl⟩
  | carve on length name =>
    refine .need h (hfind on) on fun slab hfound => ?_
    have hreply := Slab.carve?_follows (h.slabs.find? hfound) length
    refine .ofAttempt hreply (fun slab hs => ⟨?_, s.view_insert_slab on slab⟩) ?_
    · exact { h with slabs := h.slabs.insert on hs }
    · rintro t (_ | chunk) ht hchunk
      · exact ⟨_, _, rfl, ht, rfl⟩
      · exact ⟨_, _, rfl, { ht with chunks := ht.chunks.insert name (hchunk chunk rfl) }, rfl⟩
  | drop on =>
    simp only [step, ← Names.contains_map Slab.view s.slabs]
    refine .answer_of ?_ _ ?_
    · exact { h with slabs := h.slabs.erase on }
    · simp [view, Names.erase_map]
  | text on => exact plain_follows h (.ask (.refl _))

/-- As long as there is room, a step meets no check that fails, and does what it does without
checks. -/
theorem step_follows {command : Command} (hfits : s.Fits command) :
    Turn.Follows (s.step command) (s.view.step command) := by
  cases command with
  | pool command => exact pool_step_follows h hfits
  | registry command => exact registry_step_follows h command
  | region command => exact region_step_follows h hfits
  | arena command => exact arena_step_follows h hfits
  | slab command => exact slab_step_follows h command
  | buffer command => exact buffer_step_follows h hfits

end

end Session
end Checked
end BytePool
