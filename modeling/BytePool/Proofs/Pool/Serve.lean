import BytePool.Pool.Run
import BytePool.Proofs.Carving.Run

/-!
# Serving a request

Every request but two kinds goes the same way: it asks for a buffer of an order and a size, and then
fills it. The two others never come near the slabs: a range that exceeds its source is refused, and
a region of writable memory becomes a buffer itself.
-/
namespace BytePool

namespace Reply
variable {σ α β : Type}

@[simp] lemma bind_done (reply : Reply σ α) :
    reply.bind (fun state value => .done value state) = reply := by
  obtain ⟨_ | _, _, _⟩ := reply <;> simp [bind, done]

lemma bind_of_error {reply : Reply σ α} {failure : Failure} (h : reply.outcome = .error failure)
    (next : σ → α → Reply σ β) :
    reply.bind next = ⟨.error failure, reply.state, reply.events⟩ := by
  rw [bind, h]

lemma bind_of_ok {reply : Reply σ α} {value : α} (h : reply.outcome = .ok value)
    (next : σ → α → Reply σ β) :
    reply.bind next =
      { next reply.state value with
        events := reply.events ++ (next reply.state value).events } := by
  rw [bind, h]

end Reply

lemma Buffer.putSlice_of_writable {b : Buffer} (hb : b.isReadOnly = false) (bytes : List UInt8) :
    b.putSlice bytes = .done () (b.putSlice bytes).state := by
  unfold putSlice
  split
  · rfl
  · rw [put_of_writable hb]
    rfl

/-- Into a buffer that can be written, a region gives all that it has left. -/
lemma Region.drainInto_of_writable (region : Region) {b : Buffer} (hb : b.isReadOnly = false)
    (h : region.remaining ≠ 0) :
    region.drainInto b =
      .done () (b.append region.readable,
        { region with position := region.position + region.remaining }) := by
  have hne : region.readable.isEmpty = false := by
    rw [List.isEmpty_eq_false_iff, ← List.length_pos_iff, region.length_readable]
    exact Nat.pos_of_ne_zero h
  simp [drainInto, advance, Buffer.putSlice, Buffer.put, hne, hb, Reply.within, Reply.bind,
    Reply.done]

namespace Pool

/-- A pool after which only the counters are others than before. -/
structure Recounted (pool : Pool) (counters : Counters) (after : Pool) : Prop where
  counters_eq : after.counters = counters
  arenas_eq : after.arenas = pool.arenas
  defaultOrder_eq : after.defaultOrder = pool.defaultOrder
  slabCapacity_eq : after.slabCapacity = pool.slabCapacity

lemma recounted_empty (pool : Pool) :
    pool.Recounted { pool.counters with emptyReturns := pool.counters.emptyReturns + 1 }
      pool.empty.state := ⟨rfl, rfl, rfl, rfl⟩

namespace Request

/-- The order of the buffer that is asked for. -/
def order (defaultOrder : ByteOrder) : Request → ByteOrder
  | .buffer order _ | .copyRange order _ _ _ => order
  | .defaultBuffer _ | .copyBytes _ => defaultOrder
  | .adoptRegion region | .copyRegion region => region.order

/-- The number of bytes that are asked for. -/
def size : Request → Nat
  | .buffer _ capacity | .defaultBuffer capacity => capacity
  | .copyRange _ _ _ length => length
  | .copyBytes source => source.length
  | .adoptRegion region | .copyRegion region => region.remaining

/-- A range that ends behind its source. -/
def exceeds : Request → Bool
  | .copyRange _ source offset length => 0 < length ∧ source.length < offset + length
  | _ => false

/-- A region whose memory becomes the buffer. -/
def handsOver : Request → Bool
  | .adoptRegion region =>
    match region.storage with
    | .direct _ => true
    | .readOnly | .heap => false
  | _ => false

/-- The copy of a region into a buffer that was made for it. -/
def finishRegion (region : Region) (pool : Pool) (b : Buffer) : Reply Pool Buffer :=
  if region.remaining = 0 then .done b pool
  else
    (Reply.done (b.append region.readable)
      (pool.count fun c => { c with copiedRegions := c.copiedRegions + 1 })).emit
      (.regionCopied region.order region.remaining region.position)

/-- What is left to do once there is a buffer of the order and size that were asked for. -/
def finish : Request → Pool → Buffer → Reply Pool Buffer
  | .buffer _ _, pool, b | .defaultBuffer _, pool, b => .done b pool
  | .copyRange _ source offset length, pool, b =>
    .done (b.putSlice ((source.drop offset).take length)).state pool
  | .copyBytes source, pool, b => .done (b.putSlice source).state pool
  | .adoptRegion region, pool, b | .copyRegion region, pool, b => finishRegion region pool b

end Request

/-! ### Buffers on request -/

/-- Once there is a buffer the request is served, and with this buffer. -/
lemma outcome_finish (request : Request) (pool : Pool) (b : Buffer) :
    ∃ filled, (request.finish pool b).outcome = .ok filled ∧ filled.order = b.order ∧
      filled.origin = b.origin ∧ filled.isReadOnly = b.isReadOnly := by
  have hput (bytes : List UInt8) : (b.putSlice bytes).state.order = b.order ∧
      (b.putSlice bytes).state.origin = b.origin ∧
      (b.putSlice bytes).state.isReadOnly = b.isReadOnly := by simp
  cases request with
  | buffer order capacity | defaultBuffer capacity => exact ⟨b, rfl, rfl, rfl, rfl⟩
  | copyRange order source offset length => exact ⟨_, rfl, hput _⟩
  | copyBytes source => exact ⟨_, rfl, hput source⟩
  | adoptRegion region | copyRegion region =>
    simp only [Request.finish, Request.finishRegion]
    split <;> exact ⟨_, rfl, rfl, rfl, rfl⟩

/-- Memory of its own is counted in any case and delivered if memory can be that large. -/
lemma dedicated_spec (pool : Pool) (order : ByteOrder) (capacity : Nat) :
    (pool.dedicated order capacity).state = pool.count (fun c =>
        { c with
          dedicatedAllocations := c.dedicatedAllocations + 1
          dedicatedBytes := c.dedicatedBytes + UInt64.ofNat capacity }) ∧
      (pool.dedicated order capacity).outcome =
        if maxAllocation < capacity then .error .capacityOverflow
        else .ok (.dedicated order capacity) := by
  simp only [dedicated]
  split <;> exact ⟨rfl, rfl⟩

/-- A slice of the size that was asked for, or no memory can hold a slab. -/
lemma outcome_carved (pool : Pool) (order : ByteOrder) (capacity : Nat) :
    (∃ s : Slice, (pool.carved order capacity).outcome =
        .ok (s.blank (pool.arenas.get order).order).clear ∧ s.length = capacity) ∨
      maxAllocation < (pool.arenas.get order).slabCapacity ∧
        (pool.carved order capacity).outcome = .error .capacityOverflow := by
  obtain ⟨s, b, ho, hs, hclear, -⟩ | ⟨hmax, ho⟩ :=
    Arena.carve_outcome (pool.arenas.get order) capacity
  · exact .inl ⟨s, by simp [carved, Reply.map, ho, Except.map, hclear], hs⟩
  · exact .inr ⟨hmax, by simp [carved, Reply.map, ho, Except.map]⟩

/-- What a pool delivers is the empty buffer, memory of its own or a slice, as the size decides, and
what it cannot deliver is too large for any memory. -/
lemma buffer_outcome (pool : Pool) (order : ByteOrder) (capacity : Nat) :
    capacity = 0 ∧ (pool.buffer order capacity).outcome = .ok .empty ∨
      0 < capacity ∧ pool.slabCapacity ≤ capacity ∧
        (pool.buffer order capacity).outcome = .ok (.dedicated order capacity) ∨
      0 < capacity ∧ capacity < pool.slabCapacity ∧
        (∃ s : Slice, (pool.buffer order capacity).outcome =
          .ok (s.blank (pool.arenas.get order).order).clear ∧ s.length = capacity) ∨
      (pool.buffer order capacity).outcome = .error .capacityOverflow := by
  obtain rfl | hpos := Nat.eq_zero_or_pos capacity
  · exact .inl ⟨rfl, rfl⟩
  by_cases hc : pool.slabCapacity ≤ capacity
  · rw [buffer_of_slabCapacity_le order hpos hc, (dedicated_spec pool order capacity).2]
    by_cases hmax : maxAllocation < capacity
    · exact .inr (.inr (.inr (if_pos hmax)))
    · exact .inr (.inl ⟨hpos, hc, if_neg hmax⟩)
  · rw [buffer_of_lt_slabCapacity order hpos (Nat.lt_of_not_le hc)]
    obtain ⟨s, ho, hs⟩ | ⟨-, ho⟩ := outcome_carved pool order capacity
    · exact .inr (.inr (.inl ⟨hpos, Nat.lt_of_not_le hc, s, ho, hs⟩))
    · exact .inr (.inr (.inr ho))

/-- Only the shared empty buffer is not writable. -/
lemma isReadOnly_of_buffer {pool : Pool} {order : ByteOrder} {capacity : Nat} {b : Buffer}
    (hpos : 0 < capacity) (h : (pool.buffer order capacity).outcome = .ok b) :
    b.isReadOnly = false := by
  obtain ⟨h0, -⟩ | ⟨-, -, ho⟩ | ⟨-, -, s, ho, -⟩ | ho := buffer_outcome pool order capacity
  · omega
  all_goals
    rw [ho] at h
    cases h
  · rfl
  · rfl

/-! ### The common way -/

section Serve
variable (pool : Pool) (request : Request)

lemma serve_of_exceeds (h : request.exceeds) : ∃ e, pool.serve request = .refuse e pool := by
  cases request with
  | copyRange order source offset length =>
    have hlt : 0 < length ∧ source.length < offset + length := by simpa [Request.exceeds] using h
    refine ⟨.indexOutOfRange "length" (min maxWord (offset + length)) source.length, ?_⟩
    rw [serve, copyRange, if_neg (by omega), if_pos hlt.2]
  | _ => cases h

lemma serve_of_handsOver (h : request.handsOver) :
    ∃ region spare, request = .adoptRegion region ∧ region.storage = .direct spare ∧
      pool.serve request =
        (Reply.done (.wrapFrom region.order region.bytes spare region.position)
          (pool.count fun c => { c with wrappedRegions := c.wrappedRegions + 1 })).emit
          (.regionWrapped region.order region.length region.position) := by
  cases request with
  | adoptRegion region =>
    simp only [Request.handsOver] at h
    split at h
    case h_1 spare hs => exact ⟨region, spare, rfl, hs, by rw [serve, adoptRegion, hs]⟩
    all_goals cases h
  | _ => cases h

/-- A copy of a region never fails half way: there is room for it and it ends where the region
does. From there the region goes back to where it was. -/
lemma copyRegion_spec (region : Region) :
    ∃ last : Region,
      pool.copyRegion region =
          ((pool.buffer region.order region.remaining).bind (Request.finishRegion region)).within
            (·, last) ∧
        (region.position ≤ region.length → last = region) := by
  cases ho : (pool.buffer region.order region.remaining).outcome with
  | error failure =>
    exact ⟨region, by simp [copyRegion, Reply.bind, Reply.within, ho], fun _ => rfl⟩
  | ok b =>
    by_cases hr : region.remaining = 0
    · have hw : ((pool.buffer region.order region.remaining).within (·, region)).outcome =
          .ok b := ho
      refine ⟨region, ?_, fun _ => rfl⟩
      rw [Reply.bind_of_ok ho, copyRegion, Reply.bind_of_ok hw]
      simp [Reply.within, Request.finishRegion, hr, Reply.done]
    · have hb := isReadOnly_of_buffer (Nat.pos_of_ne_zero hr) ho
      have hdrain := region.drainInto_of_writable hb hr
      refine ⟨_, ?_, fun h => Region.restore_of_position_le h (region.position + region.remaining)⟩
      simp [copyRegion, Request.finishRegion, Reply.bind, Reply.within, Reply.done, Reply.emit, ho,
        hr, hdrain]

lemma copyRegion_eq_bind (region : Region) :
    (pool.copyRegion region).within Prod.fst =
      (pool.buffer region.order region.remaining).bind (Request.finishRegion region) := by
  obtain ⟨last, heq, -⟩ := pool.copyRegion_spec region
  rw [heq]
  rfl

lemma copyRange_eq_bind (order : ByteOrder) (source : List UInt8) (offset length : Nat)
    (h : ¬(0 < length ∧ source.length < offset + length)) :
    pool.copyRange order source offset length =
      (pool.buffer order length).bind fun pool b =>
        .done (b.putSlice ((source.drop offset).take length)).state pool := by
  obtain rfl | hpos := Nat.eq_zero_or_pos length
  · simp only [List.take_zero]
    exact (Reply.bind_done _).symm
  · rw [copyRange, if_neg (by omega), if_neg fun hlt => h ⟨hpos, hlt⟩]
    cases ho : (pool.buffer order length).outcome with
    | error failure => simp [Reply.bind, ho]
    | ok b =>
      have hb := isReadOnly_of_buffer hpos ho
      rw [Reply.bind_of_ok ho, Reply.bind_of_ok ho, Buffer.putSlice_of_writable hb]
      rfl

/-- All other requests are buffers on request that are then filled. -/
theorem serve_eq_bind (hin : request.exceeds = false) (hcopy : request.handsOver = false) :
    pool.serve request =
      (pool.buffer (request.order pool.defaultOrder) request.size).bind request.finish := by
  cases request with
  | buffer order capacity => exact (Reply.bind_done _).symm
  | defaultBuffer capacity => exact (Reply.bind_done _).symm
  | copyRange order source offset length =>
    exact copyRange_eq_bind pool order source offset length (by simpa [Request.exceeds] using hin)
  | copyBytes source =>
    have h := copyRange_eq_bind pool pool.defaultOrder source 0 source.length (by omega)
    simp only [List.drop_zero, List.take_length] at h
    exact h
  | adoptRegion region =>
    cases hs : region.storage with
    | direct spare => simp [Request.handsOver, hs] at hcopy
    | readOnly | heap =>
      rw [serve, adoptRegion, hs]
      exact copyRegion_eq_bind pool region
  | copyRegion region => exact copyRegion_eq_bind pool region

end Serve
end Pool
end BytePool
