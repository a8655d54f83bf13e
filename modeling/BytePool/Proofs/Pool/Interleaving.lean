import BytePool.Proofs.Pool.Callers

/-!
# Interleavings

What callers of a shared pool can count on once all of them are done, whichever way their steps
were interleaved.
-/
namespace BytePool.Pool

/-- A buffer as it was asked for, writable from its first byte on, or the empty buffer. -/
def Demand.Served (d : Demand) : Except Failure Buffer → Prop
  | .ok b =>
    if d.size = 0 then b = .empty
    else b.order = d.order ∧ b.readable = [] ∧ b.capacity = some d.size ∧ b.isReadOnly = false
  | .error _ => False

lemma served_buffer {pool : Pool} (h : pool.Sound) (hmax : pool.slabCapacity ≤ maxAllocation)
    {d : Demand} (hsize : d.size ≤ maxAllocation) :
    d.Served (pool.buffer d.order d.size).outcome := by
  obtain h0 | hpos := Nat.eq_zero_or_pos d.size
  · rw [h0, buffer_zero]
    change d.Served (.ok .empty)
    simp [Demand.Served, h0]
  by_cases hc : pool.slabCapacity ≤ d.size
  · rw [buffer_of_slabCapacity_le d.order hpos hc, (dedicated_spec pool d.order d.size).2,
      if_neg (Nat.not_lt.mpr hsize)]
    simp [Demand.Served, Nat.ne_of_gt hpos, Buffer.dedicated]
  · rw [buffer_of_lt_slabCapacity d.order hpos (Nat.lt_of_not_le hc)]
    obtain ⟨s, ho, hs⟩ | ⟨hover, -⟩ := outcome_carved pool d.order d.size
    · rw [ho]
      simp [Demand.Served, Nat.ne_of_gt hpos, Buffer.clear, h.order_eq, Slice.blank,
        Buffer.ofSlice, Block.zeroed, hs]
    · rw [h.slabCapacity_eq] at hover
      omega

lemma served_run {pool : Pool} (h : pool.Sound) (hmax : pool.slabCapacity ≤ maxAllocation)
    {demands : List Demand} (hsize : ∀ d ∈ demands, d.size ≤ maxAllocation) :
    List.Forall₂ Demand.Served demands (pool.run (demands.map Demand.request)).outcomes := by
  induction demands generalizing pool with
  | nil => exact .nil
  | cons d demands ih =>
    have hfirst := served_buffer h hmax (hsize d (by simp))
    have hlater := ih (h.serve d.request) (by rwa [(frame_serve pool d.request).2])
      fun d' hd' => hsize d' (by simp [hd'])
    exact .cons hfirst hlater

/-- The slices of an order that were delivered. -/
def slicesIn (o : ByteOrder) (trace : List Service) : List Slice :=
  trace.filterMap fun service => sliceIn o service.outcome

/-! ### Requests of one size -/

section Even
variable {demands : List Demand} {o : ByteOrder} {slabCapacity size : Nat}
  (hpos : 0 < size) (hlt : size < slabCapacity)
include hpos hlt

lemma carvedSizes_replicate (count : Nat) (p : ByteOrder) :
    Demand.carvedSizes slabCapacity p (List.replicate count ⟨o, size⟩) =
      if p = o then List.replicate count size else [] := by
  by_cases hp : p = o
  · simp [Demand.carvedSizes, hp, hpos, hlt]
  · simp [Demand.carvedSizes, hp, Ne.symm hp]

/-- Requests of one size for one order fill the slots of the order, and nothing else is counted. -/
lemma run_replicate {defaultOrder : ByteOrder} (hmax : slabCapacity ≤ maxAllocation) (count : Nat) :
    ((fresh defaultOrder slabCapacity).run
        ((List.replicate count ⟨o, size⟩ : List Demand).map Demand.request)).slices o =
        slots slabCapacity size count ∧
      ((fresh defaultOrder slabCapacity).run
        ((List.replicate count ⟨o, size⟩ : List Demand).map Demand.request)).state.stats =
        ⟨{}, .ofFn fun p => .of p slabCapacity
          (if p = o then slots slabCapacity size count else [])⟩ := by
  have hslices (p : ByteOrder) :
      ((fresh defaultOrder slabCapacity).run
        ((List.replicate count ⟨o, size⟩ : List Demand).map Demand.request)).slices p =
          if p = o then slots slabCapacity size count else [] := by
    rw [(slices_run hmax p _).1, carvedSizes_replicate hpos hlt]
    split
    · exact Layout.replicate_start hpos hlt.le count
    · rfl
  have hcounters := counters_run (fresh defaultOrder slabCapacity)
    (List.replicate count ⟨o, size⟩)
  have hempty : (List.replicate count (⟨o, size⟩ : Demand)).countP (·.size = 0) = 0 := by
    simp [List.countP_replicate, Nat.ne_of_gt hpos]
  have hlarge : Demand.largeSizes slabCapacity (List.replicate count ⟨o, size⟩) = [] := by
    simp [Demand.largeSizes, hlt]
  refine ⟨by rw [hslices, if_pos rfl], ?_⟩
  rw [stats, hcounters]
  congr 1
  · rw [hempty, show (fresh defaultOrder slabCapacity).slabCapacity = slabCapacity from rfl, hlarge]
    rfl
  · ext p
    rw [PerOrder.get_ofFn, PerOrder.get_ofFn, (slices_run hmax p _).2, hslices]

end Even

/-! ### All callers are done -/

/-- Every caller has been served its requests one after the other, and the pool is as if somebody
had served the requests in the sequence of the deliveries. -/
structure Sharing.Settled (pool : Pool) (demands : List (List Demand)) (trace : List Service)
    (s : Sharing) : Prop where
  each : ∀ i (h : i < demands.length),
    (trace.filter (·.caller = i)).map (·.demand) = demands[i]
  once : (trace.map (·.demand)).Perm demands.flatten
  served : ∀ service ∈ trace, service.demand.Served service.outcome
  outcomes : trace.map (·.outcome) = (pool.run (requestsOf trace)).outcomes
  state : s.pool = (pool.run (requestsOf trace)).state
  slices : ∀ o, slicesIn o trace = (pool.run (requestsOf trace)).slices o
  apart : ∀ o, (slicesIn o trace).Pairwise Slice.Apart
  tally : s.pool.tally = Tally.of pool.slabCapacity demands.flatten
  even : ∀ o size, 0 < size → size < pool.slabCapacity → (∀ d ∈ demands.flatten, d = ⟨o, size⟩) →
    slicesIn o trace = slots pool.slabCapacity size demands.flatten.length ∧
      s.pool.stats = ⟨{}, .ofFn fun p => .of p pool.slabCapacity
        (if p = o then slots pool.slabCapacity size demands.flatten.length else [])⟩

lemma Sharing.Steps.settled {defaultOrder : ByteOrder} {slabCapacity : Nat}
    (hmax : slabCapacity ≤ maxAllocation) {demands : List (List Demand)}
    (hsize : ∀ own ∈ demands, ∀ d ∈ own, d.size ≤ maxAllocation) {trace : List Service}
    {s : Sharing} (hsteps : Steps (.start (fresh defaultOrder slabCapacity) demands) trace s)
    (hdone : s.IsDone) : Settled (fresh defaultOrder slabCapacity) demands trace s := by
  have hsound := sound_fresh_pool defaultOrder slabCapacity
  have hlinear := (Sharing.Linear.start _ demands).steps hsteps
  have hrequests : requestsOf trace = (trace.map (·.demand)).map Demand.request := by
    simp [requestsOf]
  have hpending : s.callers.flatMap (·.pending) = [] := List.flatMap_eq_nil_iff.mpr hdone
  have honce : (trace.map (·.demand)).Perm demands.flatten := by
    simpa [hpending] using hlinear.all
  have hstate := hlinear.pool_eq_of_isDone hdone
  have hslices (o : ByteOrder) :
      slicesIn o trace = ((fresh defaultOrder slabCapacity).run (requestsOf trace)).slices o := by
    rw [Run.slices, ← hlinear.outcomes_eq, List.filterMap_map]
    rfl
  constructor
  case each =>
    intro i hi
    have hi' := hlinear.each i
    rw [List.getElem?_eq_getElem hi] at hi'
    obtain ⟨c, hc, heq⟩ := Option.map_eq_some_iff.mp hi'.symm
    rw [← heq, hdone c (List.mem_of_getElem? hc), List.append_nil]
  case once => exact honce
  case served =>
    have hsizes : ∀ d ∈ trace.map (·.demand), d.size ≤ maxAllocation := by
      intro d hd
      obtain ⟨own, hown, hmem⟩ := List.mem_flatten.mp (honce.subset hd)
      exact hsize own hown d hmem
    have hall := served_run hsound hmax hsizes
    rw [← hrequests, ← hlinear.outcomes_eq, List.forall₂_map_left_iff, List.forall₂_map_right_iff,
      List.forall₂_same] at hall
    exact hall
  case outcomes => exact hlinear.outcomes_eq
  case state => exact hstate
  case slices => exact hslices
  case apart =>
    intro o
    rw [hslices, hrequests, (slices_run hmax o _).1]
    exact (Layout.pairwise_behind ..).imp Slice.Behind.apart
  case tally =>
    rw [hstate, hrequests, tally_run hmax]
    exact Tally.of_perm _ honce
  case even =>
    intro o size hpos hlt hall
    have heven : trace.map (·.demand) = List.replicate demands.flatten.length ⟨o, size⟩ :=
      List.eq_replicate_iff.mpr
        ⟨honce.length_eq, fun d hd => hall d (honce.subset hd)⟩
    rw [hslices, hstate, hrequests, heven]
    exact run_replicate hpos hlt hmax _

/-- Whatever the sequence of the steps, once all callers are done each request has been served once,
no two slices share a byte, and the counters are the sums over the requests. Requests of one size
fill the first slots. Wherever the callers are, they can all come to such an end. -/
theorem settled_of_isDone {defaultOrder : ByteOrder} {slabCapacity : Nat} {pool : Pool}
    (hpool : Pool.new defaultOrder slabCapacity = .ok pool) (hmax : slabCapacity ≤ maxAllocation)
    {demands : List (List Demand)}
    (hsize : ∀ own ∈ demands, ∀ d ∈ own, d.size ≤ maxAllocation) {trace : List Service}
    {s : Sharing} (hsteps : Sharing.Steps (.start pool demands) trace s) :
    (s.IsDone → Sharing.Settled pool demands trace s) ∧
      ∃ later t, Sharing.Steps s later t ∧ t.IsDone ∧
        Sharing.Settled pool demands (trace ++ later) t := by
  obtain ⟨rfl, -⟩ := eq_fresh_of_new hpool
  obtain ⟨later, t, hlater, hdone⟩ := s.exists_steps_isDone
  exact ⟨hsteps.settled hmax hsize,
    later, t, hlater, hdone, (hsteps.append hlater).settled hmax hsize hdone⟩

/-- Two callers of which the second takes all its steps while the first is halfway. -/
theorem settled_of_isDone_of_two :
    Pool.new .big 4 = .ok (fresh .big 4) ∧ 4 ≤ maxAllocation ∧
      (∀ own ∈ ([[⟨.big, 3⟩, ⟨.big, 9⟩], [⟨.big, 0⟩, ⟨.little, 2⟩]] : List (List Demand)),
        ∀ d ∈ own, d.size ≤ maxAllocation) ∧
      ∃ trace s, Sharing.Steps
          (.start (fresh .big 4) [[⟨.big, 3⟩, ⟨.big, 9⟩], [⟨.big, 0⟩, ⟨.little, 2⟩]]) trace s ∧
        s.IsDone ∧
        trace.map (fun t => (t.caller, t.demand.size)) = [(0, 3), (1, 0), (1, 2), (0, 9)] ∧
        Sharing.Settled (fresh .big 4) [[⟨.big, 3⟩, ⟨.big, 9⟩], [⟨.big, 0⟩, ⟨.little, 2⟩]] trace
          s := by
  have hsize : ∀ own ∈ ([[⟨.big, 3⟩, ⟨.big, 9⟩], [⟨.big, 0⟩, ⟨.little, 2⟩]] : List (List Demand)),
      ∀ d ∈ own, d.size ≤ maxAllocation := by decide
  have hpool : Pool.new .big 4 = .ok (fresh .big 4) := rfl
  have h0 : Sharing.Steps
      (.start (fresh .big 4) [[⟨.big, 3⟩, ⟨.big, 9⟩], [⟨.big, 0⟩, ⟨.little, 2⟩]]) [] _ := .refl
  have h1 := h0.tail (.carve (i := 0) rfl (by decide) (by decide))
  have h2 := h1.tail (.count (i := 0) rfl (by decide) (by decide))
  have h3 := h2.tail (.empty (i := 1) rfl rfl)
  have h4 := h3.tail (.carve (i := 1) rfl (by decide) (by decide))
  have h5 := h4.tail (.deliver (i := 0) rfl)
  have hdone : ∀ c ∈ ([⟨[], false⟩, ⟨[], false⟩] : List Caller), c.pending = [] := by decide
  exact ⟨hpool, by decide, hsize, _, _, h5, hdone, rfl,
    (settled_of_isDone hpool (by decide) hsize h5).1 hdone⟩

end BytePool.Pool
