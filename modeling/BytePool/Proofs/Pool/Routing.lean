import BytePool.Proofs.Pool.Reachable
import BytePool.Proofs.Pool.Ways

/-!
# Routes of requests

A request for a buffer delivers one with nothing in it and room for exactly what was asked for, and
changes one part of the pool. The size decides which: the count of empty buffers, the counts of
memory of its own, or the arena of the order. So the arenas of a pool are never asked for a whole
slab, though an arena on its own would carve one.
-/
namespace BytePool

namespace Buffer

/-- A buffer with nothing in it and room for exactly so many bytes. -/
structure Unused (b : Buffer) (size : Nat) : Prop where
  capacity_eq : b.capacity = some size
  readerIndex_eq : b.readerIndex = 0
  writerIndex_eq : b.writerIndex = 0
  readable_eq : b.readable = []
  writableBytes_eq : b.writableBytes = some size

lemma Unused.of_capacity {b : Buffer} {size : Nat} (hcapacity : b.capacity = some size)
    (hreader : b.readerIndex = 0) (hnil : b.readable = []) : b.Unused size := by
  have hwriter : b.writerIndex = 0 := by simp [writerIndex, hreader, hnil]
  exact ⟨hcapacity, hreader, hwriter, hnil, by simp [writableBytes, hcapacity, hwriter]⟩

end Buffer

/-! ### Arenas -/

namespace Arena

/-- An arena has issued one slice more, whose last byte is the last one carved of the current
slab. -/
structure Snapshot.Extends (after before : Snapshot) (origin : Origin) (size : Nat) : Prop where
  origin_eq : ∃ id, after.currentSlab = some id ∧ origin = .slab id (after.cursor - size) size
  size_le_cursor : size ≤ after.cursor
  cursor_le : after.cursor ≤ after.slabCapacity
  slicesIssued_eq : after.slicesIssued = before.slicesIssued + 1
  bytesIssued_eq : after.bytesIssued = before.bytesIssued + UInt64.ofNat size
  order_eq : after.order = before.order
  slabCapacity_eq : after.slabCapacity = before.slabCapacity

lemma extends_after (arena : Arena) {size : Nat} (hle : size ≤ arena.slabCapacity) :
    (arena.after (arena.next size)).snapshot.Extends arena.snapshot
      (.slab (arena.next size).slab (arena.next size).offset size) size := by
  have hstop : (arena.next size).stop = (arena.next size).offset + size := by
    rw [Slice.stop, length_next]
  constructor
  case origin_eq =>
    refine ⟨_, rfl, congrArg (Origin.slab _ · size) ?_⟩
    exact (Nat.sub_eq_of_eq_add hstop).symm
  case size_le_cursor => exact (Nat.le_add_left _ _).trans hstop.ge
  case cursor_le => exact stop_next_le hle
  case slicesIssued_eq => rfl
  case bytesIssued_eq =>
    simp only [snapshot, after, length_next]
  case order_eq => rfl
  case slabCapacity_eq => rfl

/-- An arena on its own carves a whole slab for one request. -/
lemma allocate_slabCapacity {arena : Arena} (hpos : 0 < arena.slabCapacity)
    (hmax : arena.slabCapacity ≤ maxAllocation) :
    ∃ s : Slice, (arena.allocate arena.slabCapacity).outcome = .ok (s.blank arena.order) ∧
      s.length = arena.slabCapacity := by
  rw [allocate_of_le hpos le_rfl]
  obtain ⟨s, b, ho, hlength, -, hblank⟩ | ⟨hlt, -⟩ := arena.carve_outcome arena.slabCapacity
  · exact ⟨s, hblank le_rfl ▸ ho, hlength⟩
  · omega

end Arena

/-! ### Pools -/

namespace Pool

/-- What a request for a buffer changes. Each way names all parts of the pool after it, so that
nothing but what it names is another than before. -/
structure Routed (pool : Pool) (order : ByteOrder) (size : Nat) (b : Buffer) (after : Pool) :
    Prop where
  empty : size = 0 → b = .empty ∧
    pool.Recounted { pool.counters with emptyReturns := pool.counters.emptyReturns + 1 } after
  /-- The arenas are left alone, even if there is room for the request in a slab. -/
  own : pool.slabCapacity ≤ size → b.origin = .dedicated ∧
    pool.Recounted
      { pool.counters with
        dedicatedAllocations := pool.counters.dedicatedAllocations + 1
        dedicatedBytes := pool.counters.dedicatedBytes + UInt64.ofNat size } after
  pooled : 0 < size → size < pool.slabCapacity →
    (after.snapshot order).Extends (pool.snapshot order) b.origin size ∧
      (∀ o, o ≠ order → after.arenas.get o = pool.arenas.get o) ∧
      after.counters = pool.counters ∧ after.defaultOrder = pool.defaultOrder ∧
      after.slabCapacity = pool.slabCapacity

section Routes
variable {pool : Pool} (order : ByteOrder) {size : Nat}

lemma routed_empty (hpos : 0 < pool.slabCapacity) :
    Routed pool order 0 .empty (pool.buffer order 0).state where
  empty _ := ⟨rfl, pool.recounted_empty⟩
  own hle := absurd hpos (Nat.not_lt.mpr hle)
  pooled hsize := absurd hsize (Nat.lt_irrefl 0)

lemma routed_own (hpos : 0 < size) (hle : pool.slabCapacity ≤ size) :
    Routed pool order size (.dedicated order size) (pool.buffer order size).state := by
  rw [buffer_of_slabCapacity_le order hpos hle]
  constructor
  case empty => exact fun hzero => absurd hzero hpos.ne'
  case own =>
    rw [(dedicated_spec pool order size).1]
    exact fun _ => ⟨rfl, rfl, rfl, rfl, rfl⟩
  case pooled => exact fun _ hlt => absurd hle (Nat.not_le.mpr hlt)

lemma routed_pooled (h : pool.Sound) (hpos : 0 < size) (hlt : size < pool.slabCapacity)
    (hmax : pool.slabCapacity ≤ maxAllocation) :
    Routed pool order size ((((pool.arenas.get order).next size).blank order).clear)
      (pool.buffer order size).state := by
  have hle : size ≤ (pool.arenas.get order).slabCapacity := by
    rw [h.slabCapacity_eq]
    exact hlt.le
  have hstate := ((carved_eq h order hpos hlt).1 hmax).2
  have hget : (pool.carved order size).state.arenas.get order =
      (pool.arenas.get order).after ((pool.arenas.get order).next size) := by
    rw [hstate, setArena, PerOrder.get_set_self]
  have horigin : (((pool.arenas.get order).next size).blank order).clear.origin =
      .slab ((pool.arenas.get order).next size).slab ((pool.arenas.get order).next size).offset
        size := by
    rw [Buffer.clear, Slice.origin_blank, Arena.length_next]
  rw [buffer_of_lt_slabCapacity order hpos hlt]
  constructor
  case empty => exact fun hzero => absurd hzero hpos.ne'
  case own => exact fun hge => absurd hlt (Nat.not_lt.mpr hge)
  case pooled =>
    intro _ _
    refine ⟨?_, fun o ho => ?_, ?_⟩
    · rw [snapshot, hget, horigin]
      exact (pool.arenas.get order).extends_after hle
    · rw [hstate]
      exact PerOrder.get_set_of_ne _ ho _
    · rw [hstate]
      exact ⟨rfl, rfl, rfl⟩

end Routes

namespace Reachable
variable {pool : Pool} (h : pool.Reachable)
include h

lemma slabCapacity_pos : 0 < pool.slabCapacity := by
  obtain ⟨defaultOrder, slabCapacity, start, requests, hnew, rfl⟩ := h
  obtain ⟨rfl, hpos⟩ := eq_fresh_of_new hnew
  rwa [(frame_run _ requests).2]

/-- Requests for less than a slab have brought each arena where it is. -/
lemma exists_sizes (o : ByteOrder) :
    ∃ sizes : List Nat, (∀ n ∈ sizes, 0 < n ∧ n < pool.slabCapacity) ∧
      pool.arenas.get o =
        (({ order := o, slabCapacity := pool.slabCapacity } : Arena).run sizes).state := by
  obtain ⟨defaultOrder, slabCapacity, start, requests, hnew, rfl⟩ := h
  obtain ⟨rfl, -⟩ := eq_fresh_of_new hnew
  have hrun := (run_arena (sound_fresh_pool defaultOrder slabCapacity) o requests).1
  rw [(frame_run _ requests).2]
  refine ⟨requests.filterMap (·.pooled defaultOrder slabCapacity o), fun n hn => ?_, ?_⟩
  · obtain ⟨request, -, hpooled⟩ := List.mem_filterMap.mp hn
    obtain ⟨-, -, -, -, hpos, hlt⟩ := Request.of_pooled_eq_some hpooled
    exact ⟨hpos, hlt⟩
  · rw [hrun, fresh, PerOrder.get_ofFn]

end Reachable

/-- A request that memory can hold delivers a buffer that is still to be used and changes nothing
but what its size decides. The arenas have seen no request for a whole slab, which an arena on its
own would serve. -/
theorem buffer_routed {pool : Pool} (hpool : pool.Reachable) (order : ByteOrder) (size : Nat)
    (hfits : (pool.buffer order size).outcome ≠ .error .capacityOverflow) :
    (∃ b, (pool.buffer order size).outcome = .ok b ∧ b.Unused size ∧
        (0 < size → b.order = order) ∧
        Routed pool order size b (pool.buffer order size).state) ∧
      (∀ o, ∃ sizes : List Nat, (∀ n ∈ sizes, 0 < n ∧ n < pool.slabCapacity) ∧
        pool.arenas.get o =
          (({ order := o, slabCapacity := pool.slabCapacity } : Arena).run sizes).state) ∧
      ∀ arena : Arena, arena.slabCapacity = pool.slabCapacity →
        arena.slabCapacity ≤ maxAllocation →
        ∃ s : Slice, (arena.allocate arena.slabCapacity).outcome = .ok (s.blank arena.order) ∧
          s.length = arena.slabCapacity := by
  have hslab := hpool.slabCapacity_pos
  refine ⟨?_, hpool.exists_sizes, fun arena heq hmax => ?_⟩
  · obtain rfl | hpos := Nat.eq_zero_or_pos size
    · exact ⟨.empty, rfl, .of_capacity rfl rfl rfl, nofun, routed_empty order hslab⟩
    obtain hlt | hle := Nat.lt_or_ge size pool.slabCapacity
    · obtain ⟨hcarved, hover⟩ := carved_eq hpool.sound order hpos hlt
      rw [← buffer_of_lt_slabCapacity order hpos hlt] at hcarved hover
      have hmax : pool.slabCapacity ≤ maxAllocation :=
        Nat.le_of_not_lt fun hmax => hfits (hover hmax).1
      refine ⟨_, (hcarved hmax).1, .of_capacity ?_ rfl rfl, fun _ => rfl,
        routed_pooled order hpool.sound hpos hlt hmax⟩
      simp [Buffer.clear]
    · have houtcome := (dedicated_spec pool order size).2
      rw [← buffer_of_slabCapacity_le order hpos hle] at houtcome
      split at houtcome
      case isTrue => exact absurd houtcome hfits
      case isFalse =>
        exact ⟨_, houtcome, .of_capacity rfl rfl rfl, fun _ => rfl, routed_own order hpos hle⟩
  · rw [← heq] at hslab
    exact Arena.allocate_slabCapacity hslab hmax

/-- With one byte of four carved, three bytes fill the slab, and four bytes pass it by. -/
theorem buffer_routed_of_three :
    let pool := ((fresh .big 4).run [.buffer .little 1]).state
    pool.Reachable ∧ (pool.buffer .little 3).outcome ≠ .error .capacityOverflow ∧
      ((pool.buffer .little 3).state.snapshot .little).Extends (pool.snapshot .little)
        (.slab 1 1 3) 3 ∧
      (pool.buffer .little 3).state.counters = {} ∧
      (pool.buffer .little 4).state.counters =
        { dedicatedAllocations := 1, dedicatedBytes := 4, emptyReturns := 0, wrappedRegions := 0,
          copiedRegions := 0 } ∧
      (pool.buffer .little 4).state.arenas = pool.arenas := by
  intro pool
  have hpool : pool.Reachable := (reachable_fresh .big (by decide)).run _
  have hthree : (pool.buffer .little 3).outcome ≠ .error .capacityOverflow := by decide
  have hfour : (pool.buffer .little 4).outcome ≠ .error .capacityOverflow := by decide
  obtain ⟨⟨b, hb, -, -, hrouted⟩, -⟩ := buffer_routed hpool .little 3 hthree
  obtain ⟨⟨_, -, -, -, hrouted'⟩, -⟩ := buffer_routed hpool .little 4 hfour
  have horigin : b.origin = .slab 1 1 3 := by
    have hslice : (pool.buffer .little 3).outcome.map Buffer.origin = .ok (.slab 1 1 3) := by decide
    rw [hb] at hslice
    exact Except.ok.inj hslice
  obtain ⟨hextends, -, hcounters, -⟩ := hrouted.pooled (by decide) (by decide)
  obtain ⟨-, hrecounted⟩ := hrouted'.own (by decide)
  refine ⟨hpool, hthree, horigin ▸ hextends, hcounters, ?_, hrecounted.arenas_eq⟩
  exact hrecounted.counters_eq.trans (by decide)

end Pool
end BytePool
