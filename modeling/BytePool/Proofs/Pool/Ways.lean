import BytePool.Proofs.Pool.Projection

/-!
# The ways of a request

All that can come of one request to a pool: what is delivered or why nothing is, and the pool that
is left. There are seven ways, and every statement about a run follows them.
-/
namespace BytePool

namespace Buffer

lemma append_nil_of_le {b : Buffer} {n : Nat} (h : b.capacity = some n) (hle : b.writerIndex ≤ n) :
    b.append [] = b := by
  obtain ⟨order, origin, isReadOnly, readerIndex, readable, capacity⟩ := b
  simp only at h
  subst h
  simpa [append, Option.filter] using hle

end Buffer

namespace Pool

namespace Request

/-- The bytes that the buffer holds once the request is served. -/
def content : Request → List UInt8
  | .buffer _ _ | .defaultBuffer _ => []
  | .copyRange _ source offset length => (source.drop offset).take length
  | .copyBytes source => source
  | .adoptRegion region | .copyRegion region => region.readable

/-- The bytes of a region are copied. -/
def copiesRegion : Request → Bool
  | .adoptRegion region => !(Request.adoptRegion region).handsOver
  | .copyRegion _ => true
  | _ => false

/-- Memory of its own is asked for. -/
def isLarge (slabCapacity : Nat) (request : Request) : Bool :=
  !request.exceeds && !request.handsOver && decide (0 < request.size ∧ slabCapacity ≤ request.size)

/-- A copy of a region is counted once there is something in it. -/
def noted (request : Request) (pool : Pool) : Pool :=
  if request.copiesRegion ∧ request.content ≠ [] then
    pool.count fun c => { c with copiedRegions := c.copiedRegions + 1 }
  else pool

lemma length_content_le (request : Request) : request.content.length ≤ request.size := by
  cases request with
  | buffer order capacity | defaultBuffer capacity => exact Nat.zero_le _
  | copyRange order source offset length => simp [content, size]
  | copyBytes source => exact le_rfl
  | adoptRegion region | copyRegion region => exact region.length_readable.le

lemma isLarge_iff {slabCapacity : Nat} {request : Request} :
    request.isLarge slabCapacity = true ↔ request.exceeds = false ∧ request.handsOver = false ∧
      0 < request.size ∧ slabCapacity ≤ request.size := by
  simp [isLarge, and_assoc]

/-- A request is for memory of its own or for a slice, but never for both. -/
lemma isLarge_of_pooled {defaultOrder o : ByteOrder} {slabCapacity n : Nat} {request : Request}
    (h : request.pooled defaultOrder slabCapacity o = some n) :
    request.isLarge slabCapacity = false := by
  obtain ⟨-, -, -, rfl, -, hlt⟩ := of_pooled_eq_some h
  rw [Bool.eq_false_iff, Ne, isLarge_iff]
  omega

lemma copiesRegion_of_handsOver {request : Request} (h : request.handsOver = true) :
    request.copiesRegion = false := by
  cases request with
  | adoptRegion region => rw [copiesRegion, h]; rfl
  | _ => cases h

@[simp] lemma arenas_noted (request : Request) (pool : Pool) :
    (request.noted pool).arenas = pool.arenas := by
  unfold noted
  split <;> rfl

/-! ### Filling what was made for the request -/

lemma noted_of_remaining_eq_zero {region : Region} {request : Request} (pool : Pool)
    (hc : request.content = region.readable) (h : region.remaining = 0) :
    request.noted pool = pool := by
  refine if_neg fun hall => hall.2 ?_
  rw [hc, ← List.length_eq_zero_iff, region.length_readable, h]

lemma finishRegion_eq {region : Region} {request : Request} (pool : Pool) {b : Buffer}
    (hc : request.content = region.readable) (hcopy : request.copiesRegion = true)
    (hroom : b.append [] = b) :
    (finishRegion region pool b).outcome = .ok (b.append request.content) ∧
      (finishRegion region pool b).state = request.noted pool := by
  unfold finishRegion
  split
  case isTrue h =>
    have hnil : region.readable = [] := by
      rw [← List.length_eq_zero_iff, region.length_readable, h]
    rw [noted_of_remaining_eq_zero pool hc h, hc, hnil, hroom]
    exact ⟨rfl, rfl⟩
  case isFalse h =>
    have hne : request.content ≠ [] := by
      rw [hc, ← List.length_pos_iff, region.length_readable]
      exact Nat.pos_of_ne_zero h
    rw [noted, if_pos ⟨hcopy, hne⟩, hc]
    exact ⟨rfl, rfl⟩

lemma finish_eq {request : Request} (hover : request.handsOver = false) (pool : Pool) {b : Buffer}
    (hb : b.isReadOnly = false) (hroom : b.append [] = b) :
    (request.finish pool b).outcome = .ok (b.append request.content) ∧
      (request.finish pool b).state = request.noted pool := by
  have hput (bytes : List UInt8) : (b.putSlice bytes).state = b.append bytes := by
    unfold Buffer.putSlice
    split
    case isTrue h => rw [List.isEmpty_iff.mp h, hroom]; rfl
    case isFalse => rw [Buffer.put_of_writable hb]; rfl
  cases request with
  | buffer order capacity | defaultBuffer capacity => exact ⟨congrArg _ hroom.symm, rfl⟩
  | copyRange order source offset length => exact ⟨congrArg _ (hput _), rfl⟩
  | copyBytes source => exact ⟨congrArg _ (hput _), rfl⟩
  | adoptRegion region => exact finishRegion_eq pool rfl (by rw [copiesRegion, hover]; rfl) hroom
  | copyRegion region => exact finishRegion_eq pool rfl rfl hroom

lemma bind_finish {request : Request} (hover : request.handsOver = false)
    {reply : Reply Pool Buffer} {b : Buffer} (h : reply.outcome = .ok b)
    (hb : b.isReadOnly = false) (hroom : b.append [] = b) :
    (reply.bind request.finish).outcome = .ok (b.append request.content) ∧
      (reply.bind request.finish).state = request.noted reply.state := by
  rw [Reply.bind_of_ok h]
  exact finish_eq hover reply.state hb hroom

lemma finish_of_size_eq_zero {request : Request} (h : request.size = 0) (pool : Pool) (b : Buffer) :
    (request.finish pool b).outcome = .ok b ∧ (request.finish pool b).state = pool := by
  cases request with
  | buffer order capacity | defaultBuffer capacity => exact ⟨rfl, rfl⟩
  | copyRange order source offset length =>
    simp only [size] at h
    subst h
    exact ⟨rfl, rfl⟩
  | copyBytes source =>
    obtain rfl := List.length_eq_zero_iff.mp h
    exact ⟨rfl, rfl⟩
  | adoptRegion region | copyRegion region =>
    have hr : region.remaining = 0 := h
    simp only [finish, finishRegion, if_pos hr]
    exact ⟨rfl, rfl⟩

end Request

/-! ### The ways -/

/-- What can come of a request, with the pool that is left. -/
inductive Way (pool : Pool) (request : Request) : Except Failure Buffer → Pool → Prop
  /-- The range exceeds its source. -/
  | refused (e : Error) (h : request.exceeds = true) :
      Way pool request (.error (.refused e)) pool
  | handedOver (b : Buffer) (h : request.handsOver = true) (hb : b.origin = .wrapped) :
      Way pool request (.ok b)
        (pool.count fun c => { c with wrappedRegions := c.wrappedRegions + 1 })
  | empty (h : request.size = 0) (hin : request.exceeds = false)
      (hover : request.handsOver = false) :
      Way pool request (.ok .empty)
        (pool.count fun c => { c with emptyReturns := c.emptyReturns + 1 })
  | own (h : request.isLarge pool.slabCapacity = true) (hmax : request.size ≤ maxAllocation) :
      Way pool request
        (.ok ((Buffer.dedicated (request.order pool.defaultOrder) request.size).append
          request.content))
        (request.noted (pool.count fun c =>
          { c with
            dedicatedAllocations := c.dedicatedAllocations + 1
            dedicatedBytes := c.dedicatedBytes + UInt64.ofNat request.size }))
  /-- No memory is that large, but the request is counted. -/
  | tooLarge (h : request.isLarge pool.slabCapacity = true) (hmax : maxAllocation < request.size) :
      Way pool request (.error .capacityOverflow)
        (pool.count fun c =>
          { c with
            dedicatedAllocations := c.dedicatedAllocations + 1
            dedicatedBytes := c.dedicatedBytes + UInt64.ofNat request.size })
  | slice (o : ByteOrder) (n : Nat)
      (h : request.pooled pool.defaultOrder pool.slabCapacity o = some n)
      (hmax : pool.slabCapacity ≤ maxAllocation) :
      Way pool request
        (.ok ((((pool.arenas.get o).next n).blank o).clear.append request.content))
        (request.noted (pool.setArena o ((pool.arenas.get o).after ((pool.arenas.get o).next n))))
  /-- No memory can hold a slab, but the slab is counted. -/
  | noSlab (o : ByteOrder) (n : Nat)
      (h : request.pooled pool.defaultOrder pool.slabCapacity o = some n)
      (hmax : maxAllocation < pool.slabCapacity) :
      Way pool request (.error .capacityOverflow)
        (pool.setArena o { pool.arenas.get o with
          slabsAllocated := (pool.arenas.get o).slabsAllocated + 1 })

/-- What is carved in a sound pool. -/
lemma carved_eq {pool : Pool} (h : pool.Sound) (o : ByteOrder) {n : Nat} (hpos : 0 < n)
    (hlt : n < pool.slabCapacity) :
    (pool.slabCapacity ≤ maxAllocation →
      (pool.carved o n).outcome = .ok (((pool.arenas.get o).next n).blank o).clear ∧
        (pool.carved o n).state =
          pool.setArena o ((pool.arenas.get o).after ((pool.arenas.get o).next n))) ∧
      (maxAllocation < pool.slabCapacity →
        (pool.carved o n).outcome = .error .capacityOverflow ∧
          (pool.carved o n).state =
            pool.setArena o { pool.arenas.get o with
              slabsAllocated := (pool.arenas.get o).slabsAllocated + 1 }) := by
  rw [← h.slabCapacity_eq o] at hlt ⊢
  constructor
  · intro hmax
    obtain ⟨ho, hs⟩ := (h.arena o).carve hpos hlt.le hmax
    simp [carved, Reply.map, Reply.within, ho, hs, Except.map, h.order_eq]
  · intro hmax
    rw [carved, (h.arena o).carve_overflow hmax]
    exact ⟨rfl, rfl⟩

/-- Every request goes one of the ways. -/
theorem way_serve {pool : Pool} (h : pool.Sound) (request : Request) :
    Way pool request (pool.serve request).outcome (pool.serve request).state := by
  by_cases hex : request.exceeds = true
  · obtain ⟨e, hserve⟩ := serve_of_exceeds pool request hex
    rw [hserve]
    exact .refused e hex
  by_cases hover : request.handsOver = true
  · obtain ⟨region, spare, -, -, hserve⟩ := serve_of_handsOver pool request hover
    rw [hserve]
    exact .handedOver _ hover rfl
  rw [Bool.not_eq_true] at hex hover
  rw [serve_eq_bind pool request hex hover]
  set o := request.order pool.defaultOrder with ho
  obtain hzero | hpos := Nat.eq_zero_or_pos request.size
  · rw [hzero, buffer_zero, empty, Reply.done_bind]
    obtain ⟨hout, hstate⟩ := Request.finish_of_size_eq_zero hzero
      (pool.count fun c => { c with emptyReturns := c.emptyReturns + 1 }) Buffer.empty
    rw [hout, hstate]
    exact .empty hzero hex hover
  by_cases hlarge : pool.slabCapacity ≤ request.size
  · rw [buffer_of_slabCapacity_le o hpos hlarge]
    have hl := Request.isLarge_iff.mpr ⟨hex, hover, hpos, hlarge⟩
    obtain ⟨hstate, hout⟩ := dedicated_spec pool o request.size
    by_cases hmax : maxAllocation < request.size
    · rw [if_pos hmax] at hout
      rw [Reply.bind_of_error hout, hstate]
      exact .tooLarge hl hmax
    · rw [if_neg hmax] at hout
      obtain ⟨hout', hstate'⟩ := Request.bind_finish hover hout rfl
        (Buffer.append_nil_of_le rfl (Nat.zero_le _))
      rw [hout', hstate', hstate]
      exact .own hl (Nat.le_of_not_lt hmax)
  · have hsmall := Nat.lt_of_not_le hlarge
    rw [buffer_of_lt_slabCapacity o hpos hsmall]
    have hp : request.pooled pool.defaultOrder pool.slabCapacity o = some request.size :=
      if_pos ⟨hex, hover, ho.symm, hpos, hsmall⟩
    obtain ⟨hfits, hover'⟩ := carved_eq h o hpos hsmall
    by_cases hmax : maxAllocation < pool.slabCapacity
    · obtain ⟨hout, hstate⟩ := hover' hmax
      rw [Reply.bind_of_error hout, hstate]
      exact .noSlab o request.size hp hmax
    · obtain ⟨hout, hstate⟩ := hfits (Nat.le_of_not_lt hmax)
      obtain ⟨hout', hstate'⟩ := Request.bind_finish hover hout rfl
        (Buffer.append_nil_of_le rfl (Nat.zero_le _))
      rw [hout', hstate', hstate]
      exact .slice o request.size hp (Nat.le_of_not_lt hmax)

end Pool
end BytePool
