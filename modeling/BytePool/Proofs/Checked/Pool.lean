import BytePool.Proofs.Checked.Arena
import BytePool.Proofs.Checked.Region
import BytePool.Proofs.Pool.Serve

/-!
# Pools with checks

A pool asks its arenas for no more than a slab has room for, copies only ranges that are there, and
fills only buffers that it can write; so the failures that a copy could end with never come about.
-/
namespace BytePool.Checked

structure Pool where
  defaultOrder : ByteOrder
  slabCapacity : Nat
  arenas : PerOrder Arena
  counters : Counters := {}
  deriving DecidableEq, Repr

namespace Pool

/-- A pool as it is made, before all requests. -/
def start (pool : BytePool.Pool) : Pool where
  defaultOrder := pool.defaultOrder
  slabCapacity := pool.slabCapacity
  arenas := .ofFn fun order => { order, slabCapacity := pool.slabCapacity }

/-! ### Requests -/

def count (pool : Pool) (f : Counters → Counters) : Pool :=
  { pool with counters := f pool.counters }

def setArena (pool : Pool) (order : ByteOrder) (arena : Arena) : Pool :=
  { pool with arenas := pool.arenas.set order arena }

def empty (pool : Pool) : Attempt Pool Buffer :=
  .ok (.done Buffer.empty (pool.count fun c => { c with emptyReturns := c.emptyReturns + 1 }))

def dedicated (pool : Pool) (order : ByteOrder) (capacity : Nat) : Attempt Pool Buffer :=
  let counted := pool.count fun c =>
    { c with
      dedicatedAllocations := c.dedicatedAllocations + 1
      dedicatedBytes := c.dedicatedBytes + UInt64.ofNat capacity }
  let attempt : Attempt Pool Buffer :=
    if maxAllocation < capacity then .ok (.overflow counted)
    else .ok (.done (Buffer.dedicated order capacity) counted)
  attempt.emit (.dedicated order capacity pool.slabCapacity)

def carved (pool : Pool) (order : ByteOrder) (capacity : Nat) : Attempt Pool Buffer :=
  (((pool.arenas.get order).carve capacity).read fun b => .ok b.clear).within (pool.setArena order)

def buffer (pool : Pool) (order : ByteOrder) (capacity : Nat) : Attempt Pool Buffer :=
  if capacity = 0 then pool.empty
  else if pool.slabCapacity ≤ capacity then pool.dedicated order capacity
  else pool.carved order capacity

/-- The end of the range may be more than any word holds. -/
def copyRange (pool : Pool) (order : ByteOrder) (source : List UInt8) (offset length : Nat) :
    Attempt Pool Buffer :=
  if length = 0 then pool.empty
  else if maxWord < offset + length then
    .ok (.refuse (.indexOutOfRange "length" maxWord source.length) pool)
  else if source.length < offset + length then
    .ok (.refuse (.indexOutOfRange "length" (offset + length) source.length) pool)
  else
    (pool.buffer order length).bind fun pool b =>
      Except.bind (slice source offset (offset + length)) fun bytes =>
        Except.map (fun filled =>
          { outcome := filled.outcome.map fun _ => filled.state
            state := pool
            events := filled.events }) (b.putSlice bytes).certain

def copyBytes (pool : Pool) (source : List UInt8) : Attempt Pool Buffer :=
  pool.copyRange pool.defaultOrder source 0 source.length

/-- Fills a buffer with what a region has left, and puts the region back to where it was. -/
def fillFrom (pool : Pool) (region : Region) (length : Nat) (b : Buffer) :
    Attempt (Pool × Region) Buffer :=
  Except.bind (region.checkedDrainInto b).certain fun drained =>
    Except.bind (drained.state.2.checkedRestore region.position) fun restored =>
      match drained.outcome with
      | .error failure => .ok ⟨.error failure, (pool, restored), []⟩
      | .ok _ =>
        .ok ((Reply.done drained.state.1
          (pool.count fun c => { c with copiedRegions := c.copiedRegions + 1 }, restored)).emit
          (.regionCopied region.order length region.position))

def copyRegion (pool : Pool) (region : Region) : Attempt (Pool × Region) Buffer :=
  Except.bind region.checkedRemaining fun length =>
    (Attempt.within (·, region) (pool.buffer region.order length)).bind fun state b =>
      if length = 0 then .ok (.done b state) else state.1.fillFrom state.2 length b

def adoptRegion (pool : Pool) (region : Region) : Attempt Pool Buffer :=
  match region.storage with
  | .direct spare =>
    Except.bind (Buffer.wrapFrom region.order region.bytes spare region.position) fun b =>
      .ok ((Reply.done b
        (pool.count fun c => { c with wrappedRegions := c.wrappedRegions + 1 })).emit
        (.regionWrapped region.order region.length region.position))
  | .readOnly | .heap => (pool.copyRegion region).within Prod.fst

def serve (pool : Pool) : Pool.Request → Attempt Pool Buffer
  | .buffer order capacity => pool.buffer order capacity
  | .defaultBuffer capacity => pool.buffer pool.defaultOrder capacity
  | .copyRange order source offset length => pool.copyRange order source offset length
  | .copyBytes source => pool.copyBytes source
  | .adoptRegion region => pool.adoptRegion region
  | .copyRegion region => (pool.copyRegion region).within Prod.fst

/-- The pool as it shows itself. -/
def shown (pool : Pool) : Except Fault BytePool.Pool := do
  let big ← pool.arenas.big.shown
  let little ← pool.arenas.little.shown
  return {
    defaultOrder := pool.defaultOrder
    slabCapacity := pool.slabCapacity
    arenas := ⟨big, little⟩
    counters := pool.counters }

/-! ### What a stored pool stands for -/

structure Sound (pool : Pool) : Prop where
  arena : ∀ order, (pool.arenas.get order).Sound
  slabCapacity_eq : ∀ order, (pool.arenas.get order).slabCapacity = pool.slabCapacity

def view (pool : Pool) : BytePool.Pool where
  defaultOrder := pool.defaultOrder
  slabCapacity := pool.slabCapacity
  arenas := pool.arenas.map Arena.view
  counters := pool.counters

def stored : Abstraction Pool BytePool.Pool := ⟨view, Sound⟩

/-- What is carved for a request can be counted. -/
def HasRoom (pool : Pool) (order : ByteOrder) (capacity : Nat) : Prop :=
  0 < capacity → capacity < pool.slabCapacity → (pool.arenas.get order).HasRoom capacity

lemma sound_start {pool : BytePool.Pool} (h : 0 < pool.slabCapacity) : (start pool).Sound where
  arena order := by
    rw [start, PerOrder.get_ofFn]
    exact ⟨h, nofun⟩
  slabCapacity_eq order := by rw [start, PerOrder.get_ofFn]

lemma view_start (order : ByteOrder) (slabCapacity : Nat) :
    (start (.fresh order slabCapacity)).view = .fresh order slabCapacity := rfl

lemma view_setArena (pool : Pool) (order : ByteOrder) (arena : Arena) :
    (pool.setArena order arena).view = pool.view.setArena order arena.view := by
  cases order <;> rfl

section
variable {pool : Pool} (h : pool.Sound)
include h

lemma Sound.slabCapacity_pos : 0 < pool.slabCapacity :=
  h.slabCapacity_eq .big ▸ (h.arena .big).slabCapacity_pos

theorem shown_eq : pool.shown = .ok pool.view := by
  rw [shown, Arena.shown_eq (show pool.arenas.big.Sound from h.arena .big),
    Arena.shown_eq (show pool.arenas.little.Sound from h.arena .little)]
  rfl

lemma Sound.count (f : Counters → Counters) : (pool.count f).Sound := ⟨h.arena, h.slabCapacity_eq⟩

lemma Sound.setArena {order : ByteOrder} {arena : Arena}
    (ha : (Arena.ofCapacity pool.slabCapacity).Sound arena) :
    (pool.setArena order arena).Sound := by
  constructor
  case arena =>
    intro o
    by_cases ho : o = order
    · subst ho
      simpa [Pool.setArena] using ha.1
    · simpa [Pool.setArena, PerOrder.get_set_of_ne _ ho] using h.arena o
  case slabCapacity_eq =>
    intro o
    by_cases ho : o = order
    · subst ho
      simpa [Pool.setArena] using ha.2
    · simpa [Pool.setArena, PerOrder.get_set_of_ne _ ho] using h.slabCapacity_eq o

end

end Pool

/-! ### Buffers on request -/

/-- Buffers with nothing in them, which can be written if something was asked for. -/
def Buffer.blank (capacity : Nat) : Abstraction Buffer BytePool.Buffer :=
  ⟨view, fun b => b.Sound ∧ b.bytes = [] ∧ (0 < capacity → b.isShared = false)⟩

namespace Pool
section
variable {pool : Pool} (h : pool.Sound) (order : ByteOrder) (capacity : Nat)
include h

lemma empty_follows : pool.empty.Follows stored (Buffer.blank 0) pool.view.empty :=
  .done (h.count _) ⟨Buffer.sound_empty, rfl, fun hpos => absurd hpos (Nat.lt_irrefl 0)⟩

lemma dedicated_follows : (pool.dedicated order capacity).Follows stored (Buffer.blank capacity)
    (pool.view.dedicated order capacity) := by
  unfold dedicated BytePool.Pool.dedicated
  refine .emit ?_ _
  split
  · exact .overflow (h.count _)
  · exact .done (h.count _) ⟨(Buffer.roomFor_dedicated order capacity).1, rfl, fun _ => rfl⟩

lemma carved_follows (hpos : 0 < capacity) (hlt : capacity < pool.slabCapacity)
    (hroom : pool.HasRoom order capacity) :
    (pool.carved order capacity).Follows stored (Buffer.blank capacity)
      (pool.view.carved order capacity) := by
  have harena := h.arena order
  have hcap := h.slabCapacity_eq order
  have hcarve := Arena.carve_follows harena hpos (by omega) (hroom hpos hlt)
  unfold carved BytePool.Pool.carved
  rw [show pool.view.arenas.get order = (pool.arenas.get order).view from PerOrder.get_map ..]
  refine Attempt.Follows.within (hcarve.read fun b hb => ⟨_, rfl, ?_, ?_⟩) fun arena ha => ?_
  · exact ⟨hb.1.clear, by simp [Buffer.clear, hb.2.1], fun _ => hb.2.1⟩
  · exact hb.1.view_clear.symm
  · exact ⟨h.setArena (hcap ▸ ha), pool.view_setArena order arena⟩

theorem buffer_follows (hroom : pool.HasRoom order capacity) :
    (pool.buffer order capacity).Follows stored (Buffer.blank capacity)
      (pool.view.buffer order capacity) := by
  unfold buffer BytePool.Pool.buffer
  by_cases hzero : capacity = 0
  · subst hzero
    exact empty_follows h
  · rw [if_neg hzero, if_neg hzero]
    by_cases hle : pool.slabCapacity ≤ capacity
    · rw [if_pos hle, if_pos (show pool.view.slabCapacity ≤ capacity from hle)]
      exact dedicated_follows h order capacity
    · rw [if_neg hle, if_neg (show ¬pool.view.slabCapacity ≤ capacity from hle)]
      exact carved_follows h order capacity (by omega) (by omega) hroom

end

/-! ### Copies -/

section
variable {pool : Pool} (h : pool.Sound)
include h

theorem copyRange_follows (order : ByteOrder) {source : List UInt8} (offset length : Nat)
    (hsource : source.length ≤ maxAllocation)
    (hroom : offset + length ≤ source.length → pool.HasRoom order length) :
    (pool.copyRange order source offset length).Follows stored Buffer.stored
      (pool.view.copyRange order source offset length) := by
  have hword : maxAllocation < maxWord := by decide
  unfold copyRange BytePool.Pool.copyRange
  by_cases hzero : length = 0
  · rw [if_pos hzero, if_pos hzero]
    exact (empty_follows h).weaken fun _ hb => ⟨hb.1, rfl⟩
  rw [if_neg hzero, if_neg hzero]
  by_cases hlong : maxWord < offset + length
  · rw [if_pos hlong, if_pos (by omega), Nat.min_eq_left (Nat.le_of_lt hlong)]
    exact .refuse h _
  rw [if_neg hlong]
  by_cases hexceeds : source.length < offset + length
  · rw [if_pos hexceeds, if_pos hexceeds, Nat.min_eq_right (by omega)]
    exact .refuse h _
  rw [if_neg hexceeds, if_neg hexceeds]
  refine (buffer_follows h order length (hroom (by omega))).bind fun pool b hp hb => ?_
  obtain ⟨hsound, hnil, hwritable⟩ := hb
  have hshared := hwritable (Nat.pos_of_ne_zero hzero)
  have hslice : slice source offset (offset + length) = .ok ((source.drop offset).take length) := by
    rw [slice_of_le (by omega) (by omega), Nat.add_sub_cancel_left]
  have hput : (b.putSlice ((source.drop offset).take length)).Follows Buffer.stored .same
      (b.view.putSlice ((source.drop offset).take length)) :=
    Buffer.putSlice_follows hsound (by
      simp only [Buffer.writerIndex, hnil, List.length_take, List.length_drop, List.length_nil]
      omega)
  rw [hslice]
  -- A buffer for at least one byte can be written, so the put is not refused.
  refine (hput.certain fun e => ?_).asValue hp
  rw [BytePool.Buffer.putSlice_of_writable hshared]
  simp [Reply.done]

omit h in
/-- Nothing can go wrong once there is a buffer to fill. -/
lemma fillFrom_eq (p : Pool) {region : Region} (hregion : region.Sound) {b : Buffer}
    (hb : b.Sound) (hnil : b.bytes = []) (hshared : b.isShared = false)
    (hne : region.remaining ≠ 0) :
    ∃ filled : Buffer, filled.Sound ∧ filled.view = b.view.append region.readable ∧
      p.fillFrom region region.remaining b =
        .ok ((Reply.done filled
          (p.count fun c => { c with copiedRegions := c.copiedRegions + 1 }, region)).emit
          (.regionCopied region.order region.remaining region.position)) := by
  have hdrain := region.drainInto_of_writable (show b.view.isReadOnly = false from hshared) hne
  have hroom : b.writerIndex + region.remaining ≤ maxAllocation := by
    have := hregion.length_le
    simp only [Buffer.writerIndex, hnil, List.length_nil, Region.remaining]
    omega
  obtain ⟨⟨outcome, ⟨filled, rest⟩, events⟩, heq, ⟨hfilled, hrest⟩, -, hreply⟩ :=
    (hregion.checkedDrainInto_follows hb hroom).certain fun e => by simp [hdrain, Reply.done]
  rw [hdrain] at hreply
  simp only [Reply.done, Reply.map, Reply.within, Reply.mk.injEq, Abstraction.prod, Prod.mk.injEq]
    at hreply
  obtain ⟨hok, ⟨hview, rfl⟩, rfl⟩ := hreply
  refine ⟨filled, hfilled, hview.symm, ?_⟩
  obtain _ | _ := outcome
  · cases hok
  simp only [fillFrom, heq, Except.bind, hregion.checkedRestore_eq]

theorem copyRegion_follows {region : Region} (hregion : region.Sound)
    (hroom : pool.HasRoom region.order region.remaining) :
    (pool.copyRegion region).Follows (stored.prod Region.checked) Buffer.stored
      (pool.view.copyRegion region) := by
  unfold copyRegion BytePool.Pool.copyRegion
  rw [hregion.checkedRemaining_eq]
  simp only [Except.bind]
  have hwithin := (buffer_follows h region.order region.remaining hroom).within
    (D := stored.prod (.such (· = region))) (f := (·, region)) (g := (·, region))
    fun state hs => ⟨⟨hs, rfl⟩, rfl⟩
  -- To make the buffer leaves the region alone, so it is still the one that was given.
  refine hwithin.bind_of (fun (p, r) hs => ?_) fun (p, r) b hs hb => ?_
  · obtain ⟨hp, rfl⟩ : p.Sound ∧ r = region := hs
    exact ⟨⟨hp, hregion⟩, rfl⟩
  obtain ⟨hp, rfl⟩ : p.Sound ∧ r = region := hs
  obtain ⟨hsound, hnil, hwritable⟩ := hb
  by_cases hzero : r.remaining = 0
  · simp only [Abstraction.prod, Abstraction.such, id, hzero, if_true]
    exact .done (A := stored.prod Region.checked) ⟨hp, hregion⟩ hsound
  · have hshared := hwritable (Nat.pos_of_ne_zero hzero)
    obtain ⟨filled, hfilled, hview, heq⟩ :=
      fillFrom_eq p hregion hsound hnil hshared hzero
    have hdrain : r.drainInto ((Buffer.blank r.remaining).view b) =
        .done () (filled.view, { r with position := r.position + r.remaining }) := by
      rw [hview]
      exact r.drainInto_of_writable hshared hzero
    simp only [Abstraction.prod, Abstraction.such, id, hzero, if_false, heq, hdrain, Reply.done,
      Region.restore_of_position_le hregion.position_le]
    have hcounted := hp.count fun c => { c with copiedRegions := c.copiedRegions + 1 }
    have hstate : (stored.prod Region.checked).Sound (_, r) := ⟨hcounted, hregion⟩
    exact .emit (.done hstate hfilled) _

theorem adoptRegion_follows {region : Region} (hregion : region.Sound)
    (hroom : (∀ spare, region.storage ≠ .direct spare) →
      pool.HasRoom region.order region.remaining) :
    (pool.adoptRegion region).Follows stored Buffer.stored (pool.view.adoptRegion region) := by
  unfold adoptRegion BytePool.Pool.adoptRegion
  cases hs : region.storage with
  | direct spare =>
    obtain ⟨b, hwrap, hb, hview⟩ :=
      Buffer.wrapFrom_eq region.order spare hregion.position_le hregion.length_le
    simp only [hwrap, Except.bind, ← hview]
    exact .emit (.done (h.count _) hb) _
  | readOnly | heap =>
    exact (copyRegion_follows h hregion (hroom (by simp [hs]))).within fun state hs => ⟨hs.1, rfl⟩

end

end Pool

/-! ### All requests -/

/-- What every request brings along: bytes that are in memory, and regions that are sound. -/
def Request.Sound : BytePool.Pool.Request → Prop
  | .buffer _ _ | .defaultBuffer _ => True
  | .copyRange _ source _ _ | .copyBytes source => source.length ≤ maxAllocation
  | .adoptRegion region | .copyRegion region => region.Sound

namespace Pool

/-- What the request takes from an arena can be counted. -/
def HasRoomFor (pool : Pool) (request : BytePool.Pool.Request) : Prop :=
  request.exceeds = false → request.handsOver = false →
    pool.HasRoom (request.order pool.defaultOrder) request.size

/-- Whatever a pool is asked for, no check fails. -/
theorem serve_follows {pool : Pool} (h : pool.Sound) {request : BytePool.Pool.Request}
    (hrequest : Request.Sound request) (hroom : pool.HasRoomFor request) :
    (pool.serve request).Follows stored Buffer.stored (pool.view.serve request) := by
  cases request with
  | buffer order capacity =>
    exact (buffer_follows h order capacity (hroom rfl rfl)).weaken fun _ hb => ⟨hb.1, rfl⟩
  | defaultBuffer capacity =>
    exact (buffer_follows h _ capacity (hroom rfl rfl)).weaken fun _ hb => ⟨hb.1, rfl⟩
  | copyRange order source offset length =>
    refine copyRange_follows h order offset length hrequest fun hin => hroom ?_ rfl
    simp [BytePool.Pool.Request.exceeds, Nat.not_lt.mpr hin]
  | copyBytes source => exact copyRange_follows h _ 0 source.length hrequest fun _ => hroom rfl rfl
  | adoptRegion region =>
    refine adoptRegion_follows h hrequest fun hs => hroom rfl ?_
    simp only [BytePool.Pool.Request.handsOver]
    split
    case h_1 spare hdirect => exact absurd hdirect (hs spare)
    all_goals rfl
  | copyRegion region =>
    exact (copyRegion_follows h hrequest (hroom rfl rfl)).within fun state hs => ⟨hs.1, rfl⟩

end Pool
end BytePool.Checked
