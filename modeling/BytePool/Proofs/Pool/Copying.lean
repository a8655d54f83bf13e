import BytePool.Proofs.Pool.Reachable
import BytePool.Proofs.Pool.Ways

/-!
# Copies

A copy fills the buffer that was made for it to the last byte and is otherwise the request for this
buffer. To copy what is left of a region is to copy its readable bytes, and the region does not
notice.
-/
namespace BytePool

namespace Reply
variable {σ α β : Type}

lemma bind_done_eq_map (reply : Reply σ α) (f : α → β) :
    reply.bind (fun state value => .done (f value) state) = reply.map f := by
  obtain ⟨_ | _, _, _⟩ := reply <;> simp [bind, done, map, Except.map]

lemma map_bind {γ : Type} (reply : Reply σ α) (f : α → β) (next : σ → β → Reply σ γ) :
    (reply.map f).bind next = reply.bind fun state value => next state (f value) := by
  obtain ⟨_ | _, _, _⟩ := reply <;> rfl

/-- What follows need only agree on what is there to follow. -/
lemma bind_congr {reply : Reply σ α} {next next' : σ → α → Reply σ β}
    (h : ∀ value, reply.outcome = .ok value →
      next reply.state value = next' reply.state value) : reply.bind next = reply.bind next' := by
  cases ho : reply.outcome with
  | error failure => rw [bind_of_error ho, bind_of_error ho]
  | ok value => rw [bind_of_ok ho, bind_of_ok ho, h value ho]

end Reply

namespace Buffer

/-- A buffer that holds bytes from the start up to all that it has room for. -/
structure Filled (b : Buffer) (order : ByteOrder) (bytes : List UInt8) (size slabCapacity : Nat) :
    Prop where
  order_eq : b.order = order
  isReadOnly_eq : b.isReadOnly = false
  readable_eq : b.readable = bytes
  readerIndex_eq : b.readerIndex = 0
  writerIndex_eq : b.writerIndex = size
  capacity_eq : b.capacity = some size
  writableBytes_eq : b.writableBytes = some 0
  slab_iff : (∃ id offset, b.origin = .slab id offset size) ↔ size < slabCapacity
  dedicated_iff : b.origin = .dedicated ↔ slabCapacity ≤ size

/-- To put as many bytes as there is room for fills a buffer. -/
lemma Filled.of_append {b : Buffer} {bytes : List UInt8} {size slabCapacity : Nat}
    (hwritable : b.isReadOnly = false) (hstart : b.readerIndex = 0) (hnil : b.readable = [])
    (hroom : b.capacity = some size) (hfull : bytes.length = size)
    (hslab : (∃ id offset, b.origin = .slab id offset size) ↔ size < slabCapacity)
    (hown : b.origin = .dedicated ↔ slabCapacity ≤ size) :
    (b.append bytes).Filled b.order bytes size slabCapacity := by
  have hwriter : b.writerIndex = 0 := by simp [writerIndex, hstart, hnil]
  have hend : (b.append bytes).writerIndex = size := by simp [hwriter, hfull]
  have hcapacity : (b.append bytes).capacity = some size :=
    capacity_append_of_le hroom (by omega)
  refine ⟨rfl, hwritable, ?_, hstart, hend, hcapacity, ?_, hslab, hown⟩
  · rw [readable_append, hnil, List.nil_append]
  · simp [writableBytes, hcapacity, hend]

end Buffer

namespace Pool

/-! ### Full buffers -/

/-- A request is served unless it exceeds its source or asks for memory that cannot be had. -/
lemma served_of_fits (pool : Pool) (request : Request) (hin : request.exceeds = false)
    (hfits : (pool.serve request).outcome ≠ .error .capacityOverflow) :
    ∃ b, (pool.serve request).outcome = .ok b := by
  cases ho : (pool.serve request).outcome with
  | ok b => exact ⟨b, rfl⟩
  | error failure =>
    cases failure with
    | capacityOverflow => exact absurd ho hfits
    | refused e =>
      have hex := (pool.serve_refusedIff request).refused_iff.mp ⟨e, ho⟩
      simp [hin] at hex

/-- Whoever asks for bytes to be copied gets them in a buffer that is full. -/
lemma filled_serve {pool : Pool} (h : pool.Sound) (request : Request)
    (hin : request.exceeds = false) (hover : request.handsOver = false) (hpos : 0 < request.size)
    (hfull : request.content.length = request.size)
    (hfits : (pool.serve request).outcome ≠ .error .capacityOverflow) :
    ∃ b, (pool.serve request).outcome = .ok b ∧
      b.Filled (request.order pool.defaultOrder) request.content request.size
        pool.slabCapacity := by
  obtain ⟨b, ho⟩ := pool.served_of_fits request hin hfits
  refine ⟨b, ho, ?_⟩
  have hw := way_serve h request
  rw [ho] at hw
  generalize (pool.serve request).state = after at hw
  cases hw with
  | handedOver b hhanded hb => simp [hover] at hhanded
  | empty hzero hin hcopy => omega
  | own hlarge hmax =>
    obtain ⟨-, -, -, hle⟩ := Request.isLarge_iff.mp hlarge
    refine .of_append rfl rfl rfl rfl hfull ?_ (iff_of_true rfl hle)
    exact iff_of_false (by simp [Buffer.dedicated]) (Nat.not_lt.mpr hle)
  | slice o n hp hmax =>
    obtain ⟨-, -, rfl, rfl, -, hlt⟩ := Request.of_pooled_eq_some hp
    set s := (pool.arenas.get (request.order pool.defaultOrder)).next request.size
    have hs : s.length = request.size := Arena.length_next
    have horigin : (s.blank (request.order pool.defaultOrder)).clear.origin =
        .slab s.slab s.offset request.size := by
      rw [← hs]
      exact s.origin_blank (request.order pool.defaultOrder)
    have hroom : (s.blank (request.order pool.defaultOrder)).clear.capacity =
        some request.size := by
      rw [← hs]
      exact s.capacity_blank (request.order pool.defaultOrder)
    refine .of_append rfl rfl rfl hroom hfull (iff_of_true ⟨_, _, horigin⟩ hlt) ?_
    exact iff_of_false (by simp [horigin]) (Nat.not_le.mpr hlt)

/-! ### Ranges -/

section Range
variable (pool : Pool) (order : ByteOrder) (source : List UInt8) (offset length : Nat)

/-- A range that is there is copied into the buffer that was asked for. -/
lemma copyRange_eq_map (hin : length = 0 ∨ offset + length ≤ source.length) :
    pool.copyRange order source offset length =
      (pool.buffer order length).map fun b =>
        (b.putSlice ((source.drop offset).take length)).state := by
  rw [copyRange_eq_bind pool order source offset length (by omega), Reply.bind_done_eq_map]

lemma copyRange_of_exceeds (hpos : 0 < length) (hlt : source.length < offset + length) :
    pool.copyRange order source offset length =
      .refuse (.indexOutOfRange "length" (min maxWord (offset + length)) source.length) pool := by
  rw [copyRange, if_neg hpos.ne', if_pos hlt]

/-- All that comes of the copy of a range. -/
structure RangeCopied (reply : Reply Pool Buffer) : Prop where
  empty : length = 0 → reply.outcome = .ok .empty
  refused_iff : 0 < length →
    ((∃ value bound, reply.outcome = .error (.refused (.indexOutOfRange "length" value bound))) ↔
      source.length < offset + length)
  refusal : 0 < length → source.length < offset + length →
    reply = .refuse (.indexOutOfRange "length" (min maxWord (offset + length)) source.length) pool
  overflow_iff : reply.outcome = .error .capacityOverflow ↔
    0 < length ∧ offset + length ≤ source.length ∧ length < pool.slabCapacity ∧
      maxAllocation < pool.slabCapacity
  filled : 0 < length → offset + length ≤ source.length →
    reply.outcome ≠ .error .capacityOverflow →
      ∃ b, reply.outcome = .ok b ∧
        b.Filled order ((source.drop offset).take length) length pool.slabCapacity
  state_eq : length = 0 ∨ offset + length ≤ source.length →
    reply.state = (pool.buffer order length).state
  events_eq : length = 0 ∨ offset + length ≤ source.length →
    reply.events = (pool.buffer order length).events

variable {pool}

/-- Too large for any memory is the request or, if the request is smaller, the slab for it. -/
lemma Sound.buffer_overflow_iff_max (h : pool.Sound) :
    (pool.buffer order length).outcome = .error .capacityOverflow ↔
      0 < length ∧ maxAllocation < max length pool.slabCapacity := by
  obtain rfl | hpos := Nat.eq_zero_or_pos length
  · exact iff_of_false nofun fun hover => Nat.lt_irrefl 0 hover.1
  rw [and_iff_right hpos]
  obtain hlt | hle := Nat.lt_or_ge length pool.slabCapacity
  · rw [buffer_of_lt_slabCapacity order hpos hlt, Nat.max_eq_right hlt.le]
    obtain ⟨hfits, hover⟩ := carved_eq h order hpos hlt
    obtain hmax | hmax := Nat.lt_or_ge maxAllocation pool.slabCapacity
    · exact iff_of_true (hover hmax).1 hmax
    · rw [(hfits hmax).1]
      exact iff_of_false nofun (Nat.not_lt.mpr hmax)
  · rw [buffer_of_slabCapacity_le order hpos hle, (dedicated_spec pool order length).2,
      Nat.max_eq_left hle]
    simp

/-- A range that is there can itself be held, so what may be too large is the slab for it. -/
lemma Sound.copyRange_overflow_iff (h : pool.Sound) (hsource : source.length ≤ maxAllocation) :
    (pool.copyRange order source offset length).outcome = .error .capacityOverflow ↔
      0 < length ∧ offset + length ≤ source.length ∧ length < pool.slabCapacity ∧
        maxAllocation < pool.slabCapacity := by
  by_cases hlt : 0 < length ∧ source.length < offset + length
  · rw [copyRange_of_exceeds pool order source offset length hlt.1 hlt.2]
    exact iff_of_false nofun fun hin => by omega
  · have hsame : (pool.copyRange order source offset length).outcome =
          .error .capacityOverflow ↔
        (pool.buffer order length).outcome = .error .capacityOverflow := by
      rw [copyRange_eq_map pool order source offset length (by omega)]
      cases ho : (pool.buffer order length).outcome <;> simp [Reply.map, ho, Except.map]
    rw [hsame, h.buffer_overflow_iff_max order length]
    omega

/-- The copy of a range is refused if and only if the range exceeds the source, and else it is the
request for a buffer that the range then fills exactly. -/
theorem copyRange_exact (hpool : pool.Reachable) (hsource : source.length ≤ maxAllocation) :
    RangeCopied pool order source offset length (pool.copyRange order source offset length) := by
  have hrefused := pool.serve_refusedIff (.copyRange order source offset length)
  constructor
  case empty =>
    rintro rfl
    rfl
  case refused_iff =>
    intro hpos
    constructor
    · rintro ⟨value, bound, ho⟩
      exact (of_decide_eq_true (hrefused.refused_iff.mp ⟨_, ho⟩)).2
    · intro hlt
      rw [copyRange_of_exceeds pool order source offset length hpos hlt]
      exact ⟨_, _, rfl⟩
  case refusal => exact copyRange_of_exceeds pool order source offset length
  case overflow_iff => exact hpool.sound.copyRange_overflow_iff order source offset length hsource
  case filled =>
    intro hpos hin hfits
    have hlength : ((source.drop offset).take length).length = length := by
      rw [List.length_take, List.length_drop]
      omega
    have hthere : (Request.copyRange order source offset length).exceeds = false :=
      decide_eq_false fun hlt => Nat.not_lt.mpr hin hlt.2
    exact filled_serve hpool.sound _ hthere rfl hpos hlength hfits
  case state_eq =>
    intro hin
    rw [copyRange_eq_map pool order source offset length hin]
    rfl
  case events_eq =>
    intro hin
    rw [copyRange_eq_map pool order source offset length hin]
    rfl

/-- The two bytes after the first one come from a new slab, since the old one has room for one byte
only, and behind the last word there is nothing to copy. -/
theorem copyRange_exact_of_two :
    let pool := ((fresh .big 4).run [.buffer .little 3]).state
    let source : List UInt8 := [1, 2, 3]
    pool.Reachable ∧ source.length ≤ maxAllocation ∧
      (∃ b, (pool.copyRange .little source 1 2).outcome = .ok b ∧ b.origin = .slab 2 0 2 ∧
        b.Filled .little [2, 3] 2 4) ∧
      pool.copyRange .little source maxWord 1 =
        .refuse (.indexOutOfRange "length" maxWord 3) pool := by
  intro pool source
  have hpool : pool.Reachable :=
    (reachable_fresh .big (show 0 < 4 by decide)).run [.buffer .little 3]
  have hsource : source.length ≤ maxAllocation := by decide
  have hin := copyRange_exact .little source 1 2 hpool hsource
  have hbehind := copyRange_exact .little source maxWord 1 hpool hsource
  refine ⟨hpool, hsource, ?_, hbehind.refusal (by decide) (by decide)⟩
  obtain ⟨b, ho, hfilled⟩ := hin.filled (by decide) (by decide) (by decide)
  have horigin : (pool.copyRange .little source 1 2).outcome.map Buffer.origin =
      .ok (.slab 2 0 2) := by decide
  rw [ho] at horigin
  exact ⟨b, ho, Except.ok.inj horigin, hfilled⟩

end Range

/-! ### Regions -/

/-- A buffer on request has nothing in it yet. -/
lemma readable_of_buffer {pool : Pool} {order : ByteOrder} {capacity : Nat} {b : Buffer}
    (h : (pool.buffer order capacity).outcome = .ok b) : b.readable = [] := by
  obtain ⟨-, ho⟩ | ⟨-, -, ho⟩ | ⟨-, -, s, ho, -⟩ | ho := buffer_outcome pool order capacity
  all_goals
    rw [ho] at h
    cases h
  all_goals rfl

/-- What is counted and sent once a region has been copied. -/
def noteCopy (region : Region) (pool : Pool) (b : Buffer) : Reply Pool Buffer :=
  if region.remaining = 0 then .done b pool
  else
    (Reply.done b (pool.count fun c => { c with copiedRegions := c.copiedRegions + 1 })).emit
      (.regionCopied region.order region.remaining region.position)

section Note
variable (region : Region) (pool : Pool) (b : Buffer)

lemma outcome_noteCopy : (noteCopy region pool b).outcome = .ok b := by
  unfold noteCopy
  split <;> rfl

lemma recounted_noteCopy : pool.Recounted
    (if region.remaining = 0 then pool.counters
    else { pool.counters with copiedRegions := pool.counters.copiedRegions + 1 })
    (noteCopy region pool b).state := by
  unfold noteCopy
  split <;> exact ⟨rfl, rfl, rfl, rfl⟩

lemma events_noteCopy : (noteCopy region pool b).events =
    if region.remaining = 0 then []
    else [.regionCopied region.order region.remaining region.position] := by
  unfold noteCopy
  split <;> rfl

end Note

section Region
variable {pool : Pool} {region : Region}

/-- To copy what is left of a region is to copy its readable bytes and to take note of it. -/
lemma copyRegion_eq_copyRange (pool : Pool) (h : region.position ≤ region.length) :
    pool.copyRegion region =
      ((pool.copyRange region.order region.readable 0 region.remaining).bind
        (noteCopy region)).within (·, region) := by
  obtain ⟨last, heq, hlast⟩ := pool.copyRegion_spec region
  obtain rfl := hlast h
  rw [heq, copyRange_eq_map _ _ _ _ _ (.inr (by rw [last.length_readable]; omega)),
    Reply.map_bind]
  refine congrArg (Reply.within (·, last)) (Reply.bind_congr fun b ho => ?_)
  rw [List.drop_zero, ← last.length_readable, List.take_length]
  obtain hr | hr := Nat.eq_zero_or_pos last.remaining
  · have hnil : last.readable = [] := List.eq_nil_of_length_eq_zero (last.length_readable.trans hr)
    simp [Request.finishRegion, noteCopy, hr, hnil, Buffer.putSlice, Reply.done]
  · have hb := isReadOnly_of_buffer hr ho
    have hne : last.readable.isEmpty = false := by
      rw [List.isEmpty_eq_false_iff, ← List.length_pos_iff, last.length_readable]
      exact hr
    simp [Request.finishRegion, noteCopy, hr.ne', Buffer.putSlice, hne,
      Buffer.put_of_writable hb, Reply.done]

/-- The copy of a region holds what can be read in the region. -/
lemma readable_of_copyRegion {b : Buffer} (h : (pool.copyRegion region).outcome = .ok b) :
    b.readable = region.readable := by
  obtain ⟨last, heq, -⟩ := pool.copyRegion_spec region
  rw [heq, Reply.outcome_within] at h
  cases ho : (pool.buffer region.order region.remaining).outcome with
  | error failure => simp [Reply.bind_of_error ho] at h
  | ok blank =>
    have hblank := readable_of_buffer ho
    rw [Reply.bind_of_ok ho, Request.finishRegion] at h
    split at h
    case isTrue hr =>
      obtain rfl := Except.ok.inj h
      rw [hblank, List.eq_nil_of_length_eq_zero (region.length_readable.trans hr)]
    case isFalse =>
      obtain rfl := Except.ok.inj h
      rw [Buffer.readable_append, hblank, List.nil_append]

/-- All that comes of the copy of a region, beside what comes of the copy of its readable bytes. -/
structure RegionCopied (region : Region) (direct : Reply Pool Buffer)
    (copied : Reply (Pool × Region) Buffer) : Prop where
  buffer_eq : ∃ b, copied.outcome = .ok b ∧ direct.outcome = .ok b ∧ b.readable = region.readable
  pool_eq : direct.state.Recounted
    (if region.remaining = 0 then direct.state.counters
    else
      { direct.state.counters with
        copiedRegions := direct.state.counters.copiedRegions + 1 }) copied.state.1
  events_eq : copied.events = direct.events ++
    if region.remaining = 0 then []
    else [.regionCopied region.order region.remaining region.position]
  region_eq : copied.state.2 = region
  /-- What is done to the region later leads to where it would have led before the copy. -/
  useAll_eq : ∀ uses, copied.state.2.useAll uses = region.moveAll (uses.filterMap Region.Use.move?)
  readable_later : ∀ uses (later : Pool) b,
    (later.copyRegion (copied.state.2.useAll uses)).outcome = .ok b →
      b.readable = (region.moveAll (uses.filterMap Region.Use.move?)).readable

/-- To copy a region is to copy its readable bytes, with one more copy counted and one more event
sent if there are any, and the region does not notice. -/
theorem copyRegion_as_copyRange (hregion : region.Reachable)
    (hfits : (pool.copyRegion region).outcome ≠ .error .capacityOverflow) :
    RegionCopied region (pool.copyRange region.order region.readable 0 region.remaining)
      (pool.copyRegion region) := by
  have hplaced := hregion.placed
  have hsame := hplaced.copyRegion pool
  have heq := copyRegion_eq_copyRange pool hplaced.position_le
  obtain ⟨b, hcopied⟩ := pool.served_of_fits (.copyRegion region) rfl hfits
  rw [serve, heq] at hcopied
  cases ho : (pool.copyRange region.order region.readable 0 region.remaining).outcome with
  | error failure =>
    rw [Reply.bind_of_error ho] at hcopied
    cases hcopied
  | ok b =>
    rw [Reply.bind_of_ok ho] at heq
    have hb : (pool.copyRegion region).outcome = .ok b := by
      rw [heq]
      exact outcome_noteCopy ..
    constructor
    case buffer_eq => exact ⟨b, hb, ho, readable_of_copyRegion hb⟩
    case pool_eq =>
      rw [heq]
      exact recounted_noteCopy ..
    case events_eq =>
      rw [heq, Reply.events_within, events_noteCopy]
    case region_eq => exact hsame
    case useAll_eq =>
      intro uses
      rw [hsame, hplaced.useAll_eq]
    case readable_later =>
      intro uses later filled hlater
      rw [readable_of_copyRegion hlater, hsame, hplaced.useAll_eq]

/-- A mark before the position survives the copy of the two bytes behind it. -/
theorem copyRegion_as_copyRange_of_two :
    let region : Region := { storage := .heap, order := .little, bytes := [1, 2, 3, 4] }
    let marked := region.useAll [.move (.setPosition 1), .move .setMark, .move (.setPosition 2)]
    let copied := (fresh .big 4).copyRegion marked
    marked.Reachable ∧ copied.outcome ≠ .error .capacityOverflow ∧
      copied.state.1.counters.copiedRegions = 1 ∧
      (copied.state.2.useAll [.move .reset, .copy (fresh .big 4)]).readable = [2, 3, 4] := by
  intro region marked copied
  have hmarked : marked.Reachable := ⟨.heap, .little, [1, 2, 3, 4], _, rfl⟩
  have hfits : copied.outcome ≠ .error .capacityOverflow := by decide
  have hcopied := copyRegion_as_copyRange hmarked hfits
  refine ⟨hmarked, hfits, ?_, ?_⟩
  · rw [hcopied.pool_eq.counters_eq]
    decide
  · rw [hcopied.useAll_eq]
    decide

end Region

end Pool
end BytePool
