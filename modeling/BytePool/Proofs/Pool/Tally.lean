import BytePool.Proofs.Pool.Projection

/-!
# What a pool counts

A run of requests for buffers moves the counters of a pool by sums over the requests. So the
counters do not tell in which sequence the requests were served.
-/
namespace BytePool.Pool

/-- A buffer that is asked for. -/
structure Demand where
  order : ByteOrder
  size : Nat
  deriving DecidableEq, Repr

namespace Demand

def request (d : Demand) : Request := .buffer d.order d.size

/-- The sizes that get memory of their own. -/
def largeSizes (slabCapacity : Nat) (demands : List Demand) : List Nat :=
  (demands.map size).filter fun n => 0 < n ∧ slabCapacity ≤ n

/-- The sizes that are carved from the slabs of an order. -/
def carvedSizes (slabCapacity : Nat) (o : ByteOrder) (demands : List Demand) : List Nat :=
  ((demands.filter (·.order = o)).map size).filter fun n => 0 < n ∧ n < slabCapacity

lemma filterMap_pooled (defaultOrder : ByteOrder) (slabCapacity : Nat) (o : ByteOrder)
    (demands : List Demand) :
    (demands.map request).filterMap (·.pooled defaultOrder slabCapacity o) =
      carvedSizes slabCapacity o demands := by
  induction demands with
  | nil => rfl
  | cons d demands ih =>
    have hpooled : d.request.pooled defaultOrder slabCapacity o =
        if d.order = o ∧ 0 < d.size ∧ d.size < slabCapacity then some d.size else none := by
      simp [request, Request.pooled, Request.exceeds, Request.handsOver, Request.order,
        Request.size]
    rw [List.map_cons, List.filterMap_cons, hpooled, ih]
    by_cases ho : d.order = o
    · by_cases hn : 0 < d.size ∧ d.size < slabCapacity
      · simp [carvedSizes, ho, hn]
      · simp [carvedSizes, ho, hn]
    · simp [carvedSizes, ho]

lemma mem_carvedSizes {slabCapacity : Nat} {o : ByteOrder} {demands : List Demand} {n : Nat}
    (h : n ∈ carvedSizes slabCapacity o demands) : 0 < n ∧ n < slabCapacity := by
  simpa using (List.mem_filter.mp h).2

end Demand

/-- What a pool has counted of requests for buffers. -/
@[ext]
structure Tally where
  emptyReturns : Nat
  dedicatedAllocations : Nat
  dedicatedBytes : UInt64
  slicesIssued : PerOrder Nat
  bytesIssued : PerOrder UInt64
  deriving DecidableEq, Repr

/-- The sums over requests that a pool counts. -/
def Tally.of (slabCapacity : Nat) (demands : List Demand) : Tally where
  emptyReturns := demands.countP (·.size = 0)
  dedicatedAllocations := (Demand.largeSizes slabCapacity demands).length
  dedicatedBytes := .ofNat (Demand.largeSizes slabCapacity demands).sum
  slicesIssued := .ofFn fun o => (Demand.carvedSizes slabCapacity o demands).length
  bytesIssued := .ofFn fun o => .ofNat (Demand.carvedSizes slabCapacity o demands).sum

def tally (pool : Pool) : Tally where
  emptyReturns := pool.stats.counters.emptyReturns
  dedicatedAllocations := pool.stats.counters.dedicatedAllocations
  dedicatedBytes := pool.stats.counters.dedicatedBytes
  slicesIssued := pool.stats.arenas.map Arena.Snapshot.slicesIssued
  bytesIssued := pool.stats.arenas.map Arena.Snapshot.bytesIssued

/-- The sums do not depend on the sequence of the requests. -/
lemma Tally.of_perm (slabCapacity : Nat) {demands demands' : List Demand}
    (h : demands.Perm demands') :
    Tally.of slabCapacity demands = Tally.of slabCapacity demands' := by
  have hlarge := (h.map Demand.size).filter fun n => decide (0 < n ∧ slabCapacity ≤ n)
  have hcarved (o : ByteOrder) := ((h.filter fun d => decide (d.order = o)).map Demand.size).filter
    fun n => decide (0 < n ∧ n < slabCapacity)
  have hempty : demands.countP (·.size = 0) = demands'.countP (·.size = 0) := h.countP_eq _
  simp only [of, Demand.largeSizes, Demand.carvedSizes, hempty, hlarge.length_eq, hlarge.sum_eq,
    (hcarved _).length_eq, (hcarved _).sum_eq]

/-! ### The counters of a run -/

lemma counters_buffer (pool : Pool) (order : ByteOrder) (n : Nat) :
    (pool.buffer order n).state.counters =
      if n = 0 then { pool.counters with emptyReturns := pool.counters.emptyReturns + 1 }
      else if pool.slabCapacity ≤ n then
        { pool.counters with
          dedicatedAllocations := pool.counters.dedicatedAllocations + 1
          dedicatedBytes := pool.counters.dedicatedBytes + UInt64.ofNat n }
      else pool.counters := by
  unfold buffer
  split
  · rfl
  split
  · rw [(dedicated_spec pool order n).1]
    rfl
  · rfl

lemma counters_run (pool : Pool) (demands : List Demand) :
    (pool.run (demands.map Demand.request)).state.counters =
      { pool.counters with
        emptyReturns := pool.counters.emptyReturns + demands.countP (·.size = 0)
        dedicatedAllocations := pool.counters.dedicatedAllocations +
          (Demand.largeSizes pool.slabCapacity demands).length
        dedicatedBytes := pool.counters.dedicatedBytes +
          UInt64.ofNat (Demand.largeSizes pool.slabCapacity demands).sum } := by
  induction demands generalizing pool with
  | nil => simp [run, Demand.largeSizes]
  | cons d demands ih =>
    have hcap := (frame_serve pool d.request).2
    have hstep := counters_buffer pool d.order d.size
    rw [List.map_cons, run, ih, hcap]
    have hserve : (pool.serve d.request).state = (pool.buffer d.order d.size).state := rfl
    rw [hserve, hstep]
    by_cases h0 : d.size = 0
    · simp [h0, Demand.largeSizes, Nat.add_assoc, Nat.add_comm]
    by_cases hlarge : pool.slabCapacity ≤ d.size
    · have hpos : 0 < d.size := Nat.pos_of_ne_zero h0
      simp [h0, hlarge, hpos, Demand.largeSizes, Nat.add_assoc, Nat.add_comm, UInt64.add_assoc]
    · simp [h0, hlarge, Demand.largeSizes]

/-- What an order receives in a run, and what its arena shows after it. -/
lemma slices_run {defaultOrder : ByteOrder} {slabCapacity : Nat}
    (hmax : slabCapacity ≤ maxAllocation) (o : ByteOrder) (demands : List Demand) :
    ((fresh defaultOrder slabCapacity).run (demands.map Demand.request)).slices o =
        layout slabCapacity (.start slabCapacity) (Demand.carvedSizes slabCapacity o demands) ∧
      ((fresh defaultOrder slabCapacity).run (demands.map Demand.request)).state.snapshot o =
        .of o slabCapacity
          (((fresh defaultOrder slabCapacity).run (demands.map Demand.request)).slices o) := by
  obtain ⟨hstate, hslices⟩ :=
    run_arena (sound_fresh_pool defaultOrder slabCapacity) o (demands.map Demand.request)
  have hget : (fresh defaultOrder slabCapacity).arenas.get o = { order := o, slabCapacity } :=
    PerOrder.get_ofFn _ o
  have hpooled : (demands.map Demand.request).filterMap
      (·.pooled (fresh defaultOrder slabCapacity).defaultOrder
        (fresh defaultOrder slabCapacity).slabCapacity o) =
        Demand.carvedSizes slabCapacity o demands := Demand.filterMap_pooled _ _ o demands
  have hgranted : Arena.granted slabCapacity (Demand.carvedSizes slabCapacity o demands) =
      Demand.carvedSizes slabCapacity o demands := by
    refine List.filter_eq_self.mpr fun n hn => ?_
    obtain ⟨hpos, hlt⟩ := Demand.mem_carvedSizes hn
    simp [hpos, hlt.le]
  have hlayout := Arena.slices_run (Arena.sound_fresh o slabCapacity) hmax
    (Demand.carvedSizes slabCapacity o demands)
  rw [hgranted] at hlayout
  rw [snapshot, hstate, hslices, hpooled, hget,
    Arena.state_run (Arena.sound_fresh o slabCapacity) hmax, Arena.snapshot_foldl_after]
  exact ⟨hlayout, rfl⟩

/-- The sums over the requests of a run are what the pool counts. -/
theorem tally_run {defaultOrder : ByteOrder} {slabCapacity : Nat}
    (hmax : slabCapacity ≤ maxAllocation) (demands : List Demand) :
    ((fresh defaultOrder slabCapacity).run (demands.map Demand.request)).state.tally =
      Tally.of slabCapacity demands := by
  have hcounters := counters_run (fresh defaultOrder slabCapacity) demands
  have hsizes (o : ByteOrder) :
      (((fresh defaultOrder slabCapacity).run (demands.map Demand.request)).slices o).map
        Slice.length = Demand.carvedSizes slabCapacity o demands := by
    rw [(slices_run hmax o demands).1, Layout.map_length]
  have hshown (o : ByteOrder) :
      ((fresh defaultOrder slabCapacity).run (demands.map Demand.request)).state.snapshot o =
        .of o slabCapacity
          (((fresh defaultOrder slabCapacity).run (demands.map Demand.request)).slices o) :=
    (slices_run hmax o demands).2
  apply Tally.ext
  case emptyReturns =>
    exact (congrArg Counters.emptyReturns hcounters).trans (Nat.zero_add _)
  case dedicatedAllocations =>
    exact (congrArg Counters.dedicatedAllocations hcounters).trans (Nat.zero_add _)
  case dedicatedBytes =>
    exact (congrArg Counters.dedicatedBytes hcounters).trans (UInt64.zero_add _)
  case slicesIssued =>
    ext o
    simp only [tally, stats, Tally.of, PerOrder.get_map, PerOrder.get_ofFn, hshown,
      Arena.Snapshot.of]
    rw [← hsizes o, List.length_map]
  case bytesIssued =>
    ext o
    simp only [tally, stats, Tally.of, PerOrder.get_map, PerOrder.get_ofFn, hshown,
      Arena.Snapshot.of, hsizes]

end BytePool.Pool
