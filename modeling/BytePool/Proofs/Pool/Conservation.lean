import BytePool.Proofs.Pool.Ways

/-!
# Conservation of requests

The statistics of a pool are a count of what came of its requests. Each buffer that is delivered is
counted once, by where its memory came from, and of the requests that deliver nothing only those for
memory of their own are counted.
-/
namespace BytePool.Pool

/-- A request with what came of it. -/
abbrev Served := Request × Except Failure Buffer

namespace Served

def delivers (p : Buffer → Bool) (x : Served) : Bool :=
  match x.2 with
  | .ok b => p b
  | .error _ => false

def isEmpty : Served → Bool := delivers (·.isSharedEmpty)

def isWrapped : Served → Bool := delivers (·.origin = .wrapped)

def isOwn : Served → Bool := delivers (·.origin = .dedicated)

/-- Memory of its own that no memory can hold. -/
def isTooLarge (slabCapacity : Nat) (x : Served) : Bool :=
  x.1.isLarge slabCapacity && x.2 = .error .capacityOverflow

/-- A copy of a region with something in it. -/
def isCopy (x : Served) : Bool := x.1.copiesRegion && x.delivers (·.isReadable)

def slice? (o : ByteOrder) (x : Served) : Option Slice := sliceIn o x.2

/-- The capacity of memory of its own. -/
def ownCapacity? (x : Served) : Option Nat :=
  match x.2 with
  | .ok b => if b.origin = .dedicated then b.capacity else none
  | .error _ => none

lemma slice?_of_none (request : Request) {b : Buffer} (h : b.origin.slice? = none) (o : ByteOrder) :
    Served.slice? o (request, .ok b) = none := sliceIn_of_none h o

lemma isCopy_append (request : Request) {b : Buffer} (hb : b.readable = []) :
    Served.isCopy (request, .ok (b.append request.content)) =
      (request.copiesRegion && decide (0 < request.content.length)) := by
  simp [isCopy, delivers, Buffer.isReadable, hb]

/-- A buffer that is delivered is empty, wrapped, memory of its own or a slice of one order. -/
lemma toNat_delivers (x : Served) :
    (x.delivers fun _ => true).toNat =
      x.isEmpty.toNat + x.isWrapped.toNat + x.isOwn.toNat +
        (x.slice? .big).toList.length + (x.slice? .little).toList.length := by
  obtain ⟨request, failure | b⟩ := x
  · rfl
  · cases ho : b.origin <;> cases hb : b.order <;>
      simp [delivers, isEmpty, isWrapped, isOwn, slice?, sliceIn, Buffer.isSharedEmpty, ho, hb]

end Served

/-- What came of each request of a run. -/
def served (pool : Pool) (requests : List Request) : List Served :=
  requests.zip (pool.run requests).outcomes

lemma served_append (pool : Pool) (requests : List Request) (request : Request) :
    pool.served (requests ++ [request]) =
      pool.served requests ++ [(request, ((pool.run requests).state.serve request).outcome)] := by
  unfold served
  rw [run_append, List.zip_append (length_outcomes_run pool requests).symm]
  rfl

/-! ### One request -/

/-- What a pool counts of one request. -/
structure Credits (before after : Pool) (x : Served) : Prop where
  emptyReturns : after.counters.emptyReturns = before.counters.emptyReturns + x.isEmpty.toNat
  wrappedRegions :
    after.counters.wrappedRegions = before.counters.wrappedRegions + x.isWrapped.toNat
  copiedRegions : after.counters.copiedRegions = before.counters.copiedRegions + x.isCopy.toNat
  dedicatedAllocations : after.counters.dedicatedAllocations =
    before.counters.dedicatedAllocations +
      (x.isOwn.toNat + (x.isTooLarge before.slabCapacity).toNat)
  dedicatedBytes : after.counters.dedicatedBytes = before.counters.dedicatedBytes +
    .ofNat (x.ownCapacity?.toList.sum +
      if x.isTooLarge before.slabCapacity = true then x.1.size else 0)
  slicesIssued (o : ByteOrder) : (after.arenas.get o).slicesIssued =
    (before.arenas.get o).slicesIssued + (x.slice? o).toList.length
  bytesIssued (o : ByteOrder) : (after.arenas.get o).bytesIssued =
    (before.arenas.get o).bytesIssued + .ofNat ((x.slice? o).toList.map Slice.length).sum
  sized : x.isOwn = true → x.ownCapacity? = some x.1.size

section Credits
variable {pool pool' : Pool} {request : Request}

lemma counters_noted (request : Request) (pool : Pool) :
    (request.noted pool).counters =
      { pool.counters with
        copiedRegions := pool.counters.copiedRegions +
          (request.copiesRegion && decide (0 < request.content.length)).toNat } := by
  unfold Request.noted
  by_cases h : request.copiesRegion = true ∧ request.content ≠ []
  · have hpos : 0 < request.content.length := List.length_pos_iff.mpr h.2
    rw [if_pos h, h.1, decide_eq_true hpos]
    rfl
  · have hnone : (request.copiesRegion && decide (0 < request.content.length)) = false := by
      simpa [List.length_pos_iff, not_and_or] using h
    rw [if_neg h, hnone]
    rfl

/-- A request that delivers nothing is counted if memory of its own was too large for it. -/
lemma credits_of_error {failure : Failure}
    (hcounters : pool'.counters =
      if Served.isTooLarge pool.slabCapacity (request, .error failure) = true then
        { pool.counters with
          dedicatedAllocations := pool.counters.dedicatedAllocations + 1
          dedicatedBytes := pool.counters.dedicatedBytes + UInt64.ofNat request.size }
      else pool.counters)
    (hissued : ∀ o, (pool'.arenas.get o).slicesIssued = (pool.arenas.get o).slicesIssued ∧
      (pool'.arenas.get o).bytesIssued = (pool.arenas.get o).bytesIssued) :
    Credits pool pool' (request, .error failure) := by
  have hdelivers (p : Buffer → Bool) : Served.delivers p (request, .error failure) = false := rfl
  constructor
  case slicesIssued => exact fun o => (hissued o).1
  case bytesIssued => exact fun o => by simpa [Served.slice?, sliceIn] using (hissued o).2
  case sized => intro h; cases h
  all_goals
    rw [hcounters]
    split <;>
      simp_all [Served.isEmpty, Served.isWrapped, Served.isOwn, Served.isCopy, Served.ownCapacity?]

lemma capacity_append_dedicated (order : ByteOrder) (request : Request) :
    ((Buffer.dedicated order request.size).append request.content).capacity =
      some request.size := by
  refine Buffer.capacity_append_of_le rfl ?_
  simpa [Buffer.dedicated, Buffer.writerIndex] using request.length_content_le

lemma credits_own (order : ByteOrder) :
    Credits pool
      (request.noted (pool.count fun c =>
        { c with
          dedicatedAllocations := c.dedicatedAllocations + 1
          dedicatedBytes := c.dedicatedBytes + UInt64.ofNat request.size }))
      (request, .ok ((Buffer.dedicated order request.size).append request.content)) := by
  have hcapacity : Served.ownCapacity?
      (request, .ok ((Buffer.dedicated order request.size).append request.content)) =
        some request.size := capacity_append_dedicated order request
  have hslice (o : ByteOrder) : Served.slice? o
      (request, .ok ((Buffer.dedicated order request.size).append request.content)) = none :=
    Served.slice?_of_none request rfl o
  constructor
  case sized => exact fun _ => hcapacity
  case slicesIssued | bytesIssued =>
    intro o
    simp [count, hslice]
  case dedicatedBytes =>
    rw [hcapacity, counters_noted]
    simp [count, Served.isTooLarge]
  case copiedRegions => rw [Served.isCopy_append request rfl, counters_noted]; rfl
  case dedicatedAllocations =>
    rw [counters_noted]
    simp [count, Served.isOwn, Served.isTooLarge, Served.delivers, Buffer.append, Buffer.dedicated]
  case emptyReturns | wrappedRegions =>
    rw [counters_noted]
    rfl

lemma credits_slice (o : ByteOrder) (n : Nat) :
    Credits pool
      (request.noted (pool.setArena o ((pool.arenas.get o).after ((pool.arenas.get o).next n))))
      (request, .ok ((((pool.arenas.get o).next n).blank o).clear.append request.content)) := by
  set s := (pool.arenas.get o).next n
  have horigin : ((s.blank o).clear.append request.content).origin =
      .slab s.slab s.offset s.length :=
    s.origin_blank o
  have hslice (p : ByteOrder) :
      Served.slice? p (request, .ok ((s.blank o).clear.append request.content)) =
        if o = p then some s else none :=
    rfl
  have hget (p : ByteOrder) : (pool.setArena o ((pool.arenas.get o).after s)).arenas.get p =
      if o = p then (pool.arenas.get o).after s else pool.arenas.get p := by
    by_cases hp : o = p
    · subst hp
      rw [if_pos rfl]
      exact PerOrder.get_set_self ..
    · rw [if_neg hp]
      exact PerOrder.get_set_of_ne _ (Ne.symm hp) _
  constructor
  case slicesIssued | bytesIssued =>
    intro p
    rw [Request.arenas_noted, hget, hslice]
    by_cases hp : o = p
    · subst hp
      simp [Arena.after]
    · simp [hp]
  case sized => simp [Served.isOwn, Served.delivers, horigin]
  case copiedRegions => rw [Served.isCopy_append request rfl, counters_noted]; rfl
  all_goals
    rw [counters_noted]
    simp [setArena, Served.isEmpty, Served.isWrapped, Served.isOwn, Served.isTooLarge,
      Served.delivers, Served.ownCapacity?, Buffer.isSharedEmpty, horigin]

/-- Whatever comes of a request, the pool counts it. -/
lemma credits_of_way {outcome : Except Failure Buffer} (hw : Way pool request outcome pool') :
    Credits pool pool' (request, outcome) := by
  cases hw with
  | refused e hex => exact credits_of_error (by simp [Served.isTooLarge]) fun _ => ⟨rfl, rfl⟩
  | handedOver b hover hb =>
    have hnone : b.origin.slice? = none := by rw [hb]; rfl
    constructor
    case slicesIssued | bytesIssued =>
      intro o
      simp [count, Served.slice?_of_none request hnone o]
    all_goals
      simp [count, Served.isEmpty, Served.isWrapped, Served.isOwn, Served.isCopy,
        Served.isTooLarge, Served.delivers, Served.ownCapacity?, Buffer.isSharedEmpty, hb,
        Request.copiesRegion_of_handsOver hover]
  | empty hzero hin hover =>
    constructor
    case slicesIssued | bytesIssued =>
      intro o
      simp [count, Served.slice?_of_none request (b := Buffer.empty) rfl o]
    all_goals
      simp [count, Served.isEmpty, Served.isWrapped, Served.isOwn, Served.isCopy,
        Served.isTooLarge, Served.delivers, Served.ownCapacity?, Buffer.isSharedEmpty,
        Buffer.isReadable, Buffer.empty]
  | own hlarge hmax => exact credits_own _
  | tooLarge hlarge hmax =>
    exact credits_of_error (by rw [if_pos (by simp [Served.isTooLarge, hlarge])]; rfl)
      fun _ => ⟨rfl, rfl⟩
  | slice o n hp hmax => exact credits_slice o n
  | noSlab o n hp hmax =>
    refine credits_of_error ?_ fun p => ?_
    · rw [if_neg (by simp [Served.isTooLarge, Request.isLarge_of_pooled hp])]
      rfl
    · by_cases hp : p = o
      · subst hp
        simp [setArena]
      · simp [setArena, PerOrder.get_set_of_ne _ hp]

end Credits

/-! ### Numbers -/

/-- No number of calls, slabs or slices that a pool keeps is more than `n`. -/
structure AtMost (pool : Pool) (n : Nat) : Prop where
  dedicatedAllocations : pool.counters.dedicatedAllocations ≤ n
  emptyReturns : pool.counters.emptyReturns ≤ n
  wrappedRegions : pool.counters.wrappedRegions ≤ n
  copiedRegions : pool.counters.copiedRegions ≤ n
  arena (o : ByteOrder) : (pool.arenas.get o).AtMost n

namespace AtMost
variable {pool pool' : Pool} {request : Request} {n : Nat}

lemma fresh (defaultOrder : ByteOrder) (slabCapacity : Nat) :
    (fresh defaultOrder slabCapacity).AtMost 0 where
  dedicatedAllocations := le_rfl
  emptyReturns := le_rfl
  wrappedRegions := le_rfl
  copiedRegions := le_rfl
  arena o := by
    rw [Pool.fresh, PerOrder.get_ofFn]
    exact .fresh o slabCapacity

lemma succ (h : pool.AtMost n) : pool.AtMost (n + 1) where
  dedicatedAllocations := Nat.le_succ_of_le h.dedicatedAllocations
  emptyReturns := Nat.le_succ_of_le h.emptyReturns
  wrappedRegions := Nat.le_succ_of_le h.wrappedRegions
  copiedRegions := Nat.le_succ_of_le h.copiedRegions
  arena o := (h.arena o).succ

lemma setArena (h : pool.AtMost n) {o : ByteOrder} {arena : Arena} (harena : arena.AtMost (n + 1)) :
    (pool.setArena o arena).AtMost (n + 1) :=
  { h.succ with
    arena := fun p => by
      by_cases hp : p = o
      · subst hp
        rwa [Pool.setArena, PerOrder.get_set_self]
      · rw [Pool.setArena, PerOrder.get_set_of_ne _ hp]
        exact (h.arena p).succ }

/-- A copy is counted besides the memory that was made for it, but only once. -/
lemma noted (h : pool.AtMost (n + 1)) (hcopied : pool.counters.copiedRegions ≤ n) :
    (request.noted pool).AtMost (n + 1) := by
  unfold Request.noted
  split
  · exact { h with copiedRegions := Nat.succ_le_succ hcopied }
  · exact h

/-- Whatever comes of a request, no number grows by more than one. -/
lemma of_way (h : pool.AtMost n) (hsound : pool.Sound) {outcome : Except Failure Buffer}
    (hw : Way pool request outcome pool') : pool'.AtMost (n + 1) := by
  cases hw with
  | refused e hex => exact h.succ
  | handedOver b hover hb =>
    exact { h.succ with wrappedRegions := Nat.succ_le_succ h.wrappedRegions }
  | empty hzero hin hover =>
    exact { h.succ with emptyReturns := Nat.succ_le_succ h.emptyReturns }
  | own hlarge hmax =>
    exact noted
      { h.succ with dedicatedAllocations := Nat.succ_le_succ h.dedicatedAllocations }
      h.copiedRegions
  | tooLarge hlarge hmax =>
    exact { h.succ with dedicatedAllocations := Nat.succ_le_succ h.dedicatedAllocations }
  | slice o length hp hmax =>
    exact noted (h.setArena ((h.arena o).after (hsound.arena o))) h.copiedRegions
  | noSlab o length hp hmax => exact h.setArena (h.arena o).counted

lemma run (defaultOrder : ByteOrder) (slabCapacity : Nat) (requests : List Request) :
    ((Pool.fresh defaultOrder slabCapacity).run requests).state.AtMost requests.length := by
  induction requests using List.reverseRecOn with
  | nil => exact fresh defaultOrder slabCapacity
  | append_singleton requests request ih =>
    have hsound := (sound_fresh_pool defaultOrder slabCapacity).run requests
    rw [state_run_append, List.length_append]
    exact ih.of_way hsound (way_serve hsound request)

end AtMost

/-! ### Whole runs -/

/-- The statistics are a count of what came of requests. -/
structure Conserved (slabCapacity : Nat) (served : List Served) (shown : Stats) : Prop where
  emptyReturns : shown.counters.emptyReturns = served.countP Served.isEmpty
  wrappedRegions : shown.counters.wrappedRegions = served.countP Served.isWrapped
  copiedRegions : shown.counters.copiedRegions = served.countP Served.isCopy
  /-- Memory of its own is counted when it is delivered, and also when it is too large for any
  memory. -/
  dedicatedAllocations : shown.counters.dedicatedAllocations =
    served.countP Served.isOwn + served.countP (Served.isTooLarge slabCapacity)
  dedicatedBytes : shown.counters.dedicatedBytes =
    .ofNat ((served.filterMap Served.ownCapacity?).sum +
      ((served.filter (Served.isTooLarge slabCapacity)).map (·.1.size)).sum)
  sized : ∀ x ∈ served, x.isOwn = true → x.ownCapacity? = some x.1.size
  slicesIssued (o : ByteOrder) :
    (shown.arenas.get o).slicesIssued = (served.filterMap (Served.slice? o)).length
  bytesIssued (o : ByteOrder) :
    (shown.arenas.get o).bytesIssued =
      .ofNat ((served.filterMap (Served.slice? o)).map Slice.length).sum

namespace Conserved
variable {slabCapacity : Nat} {served : List Served} {shown : Stats}

lemma start (defaultOrder : ByteOrder) (slabCapacity : Nat) :
    Conserved slabCapacity [] (fresh defaultOrder slabCapacity).stats := by
  constructor
  case slicesIssued | bytesIssued => intro o; cases o <;> rfl
  case sized => simp
  all_goals rfl

/-- One more request is one more entry of the count. -/
lemma append {pool pool' : Pool} {x : Served} (hcap : pool.slabCapacity = slabCapacity)
    (h : Conserved slabCapacity served pool.stats) (hx : Credits pool pool' x) :
    Conserved slabCapacity (served ++ [x]) pool'.stats := by
  subst hcap
  have hshown (p : Pool) (o : ByteOrder) : p.stats.arenas.get o = (p.arenas.get o).snapshot :=
    PerOrder.get_ofFn _ o
  have hissued := h.slicesIssued
  have hbytes := h.bytesIssued
  simp only [hshown] at hissued hbytes
  have hsingle (p : Served → Bool) : [x].countP p = (p x).toNat := by
    rw [List.countP_singleton]
    cases p x <;> rfl
  have hslices (o : ByteOrder) : [x].filterMap (Served.slice? o) = (x.slice? o).toList := by
    cases hs : x.slice? o <;> simp [hs]
  have hown : [x].filterMap Served.ownCapacity? = x.ownCapacity?.toList := by
    cases hs : x.ownCapacity? <;> simp [hs]
  constructor
  case emptyReturns =>
    rw [List.countP_append, hsingle, ← h.emptyReturns]
    exact hx.emptyReturns
  case wrappedRegions =>
    rw [List.countP_append, hsingle, ← h.wrappedRegions]
    exact hx.wrappedRegions
  case copiedRegions =>
    rw [List.countP_append, hsingle, ← h.copiedRegions]
    exact hx.copiedRegions
  case dedicatedAllocations =>
    have hgain := hx.dedicatedAllocations
    have hold := h.dedicatedAllocations
    rw [List.countP_append, List.countP_append, hsingle, hsingle]
    simp only [stats] at hold ⊢
    omega
  case dedicatedBytes =>
    have hgain := hx.dedicatedBytes
    have hold := h.dedicatedBytes
    have hlost : (([x].filter (Served.isTooLarge pool.slabCapacity)).map (·.1.size)).sum =
        if x.isTooLarge pool.slabCapacity = true then x.1.size else 0 := by
      by_cases hl : x.isTooLarge pool.slabCapacity = true <;> simp [hl]
    rw [List.filterMap_append, List.filter_append, List.map_append, List.sum_append,
      List.sum_append, hown, hlost]
    simp only [stats] at hold ⊢
    rw [hgain, hold, ← UInt64.ofNat_add]
    congr 1
    omega
  case sized =>
    intro y hy
    obtain hy | hy := List.mem_append.mp hy
    · exact h.sized y hy
    · rw [List.mem_singleton.mp hy]
      exact hx.sized
  case slicesIssued =>
    intro o
    rw [hshown, List.filterMap_append, List.length_append, hslices, ← hissued]
    exact hx.slicesIssued o
  case bytesIssued =>
    intro o
    rw [hshown, List.filterMap_append, List.map_append, List.sum_append, hslices, UInt64.ofNat_add,
      ← hbytes]
    exact hx.bytesIssued o

/-- Each delivery is counted by exactly one of five counters, by where its memory came from. -/
lemma delivered (h : Conserved slabCapacity served shown) :
    served.countP (Served.delivers fun _ => true) + served.countP (Served.isTooLarge slabCapacity) =
      shown.counters.emptyReturns + shown.counters.wrappedRegions +
        shown.counters.dedicatedAllocations + (shown.arenas.get .big).slicesIssued +
        (shown.arenas.get .little).slicesIssued := by
  have hparts : served.countP (Served.delivers fun _ => true) =
      served.countP Served.isEmpty + served.countP Served.isWrapped + served.countP Served.isOwn +
        (served.filterMap (Served.slice? .big)).length +
        (served.filterMap (Served.slice? .little)).length := by
    clear h
    induction served with
    | nil => rfl
    | cons x served ih =>
      have hx := x.toNat_delivers
      have hcount (p : Served → Bool) :
          (x :: served).countP p = served.countP p + (p x).toNat := by
        rw [List.countP_cons]
        cases p x <;> rfl
      have hslices (o : ByteOrder) : ((x :: served).filterMap (Served.slice? o)).length =
          (served.filterMap (Served.slice? o)).length + (x.slice? o).toList.length := by
        cases hs : x.slice? o <;> simp [hs]
      rw [hcount, hcount, hcount, hcount, hslices, hslices, ih, hx]
      omega
  rw [h.emptyReturns, h.wrappedRegions, h.dedicatedAllocations, h.slicesIssued, h.slicesIssued,
    hparts]
  omega

lemma run (defaultOrder : ByteOrder) (slabCapacity : Nat) (requests : List Request) :
    Conserved slabCapacity ((fresh defaultOrder slabCapacity).served requests)
      ((fresh defaultOrder slabCapacity).run requests).state.stats := by
  -- From the end of the run: what has been counted so far stays, and one request adds its credits.
  induction requests using List.reverseRecOn with
  | nil => exact start defaultOrder slabCapacity
  | append_singleton requests request ih =>
    have hsound := (sound_fresh_pool defaultOrder slabCapacity).run requests
    have hcap := (frame_run (fresh defaultOrder slabCapacity) requests).2
    rw [served_append, state_run_append]
    exact append hcap ih (credits_of_way (way_serve hsound request))

end Conserved

/-- What fails is not counted, unless it is memory of its own that is too large. -/
lemma counted_of_error {pool : Pool} (h : pool.Sound) {request : Request} {failure : Failure}
    (hfail : (pool.serve request).outcome = .error failure)
    (hlarge : Served.isTooLarge pool.slabCapacity (request, .error failure) = false) :
    (pool.serve request).state.counters = pool.counters ∧ ∀ o,
      ((pool.serve request).state.snapshot o).slicesIssued = (pool.snapshot o).slicesIssued ∧
        ((pool.serve request).state.snapshot o).bytesIssued = (pool.snapshot o).bytesIssued := by
  have hw := way_serve h request
  have hx := credits_of_way hw
  rw [hfail] at hw hx
  refine ⟨?_, fun o => ⟨hx.slicesIssued o, ?_⟩⟩
  · generalize (pool.serve request).state = after at hw
    cases hw with
    | refused e hex => rfl
    | tooLarge hl hmax => simp [Served.isTooLarge, hl] at hlarge
    | noSlab o n hp hmax => rfl
  · exact (hx.bytesIssued o).trans (UInt64.add_zero _)

/-- The statistics of a pool count exactly what came of the requests to it. So each delivery is
counted by exactly one of the five counters for where memory came from, and a request that delivers
nothing is counted by none of them, unless it was for memory of its own that no memory can hold.
No number is more than there were requests, so 64 bits hold it for fewer than `2 ^ 64` of them. -/
theorem run_conserved {defaultOrder : ByteOrder} {slabCapacity : Nat} {pool : Pool}
    (hpool : Pool.new defaultOrder slabCapacity = .ok pool) (requests : List Request) :
    Conserved slabCapacity (pool.served requests) (pool.run requests).state.stats ∧
      (pool.served requests).countP (Served.delivers fun _ => true) +
          (pool.served requests).countP (Served.isTooLarge slabCapacity) =
        (pool.run requests).state.stats.counters.emptyReturns +
          (pool.run requests).state.stats.counters.wrappedRegions +
          (pool.run requests).state.stats.counters.dedicatedAllocations +
          ((pool.run requests).state.stats.arenas.get .big).slicesIssued +
          ((pool.run requests).state.stats.arenas.get .little).slicesIssued ∧
      (pool.run requests).state.AtMost requests.length ∧
      ∀ (request : Request) (failure : Failure),
        ((pool.run requests).state.serve request).outcome = .error failure →
        Served.isTooLarge slabCapacity (request, .error failure) = false →
          ((pool.run requests).state.serve request).state.counters =
              (pool.run requests).state.counters ∧
            ∀ o, (((pool.run requests).state.serve request).state.snapshot o).slicesIssued =
                ((pool.run requests).state.snapshot o).slicesIssued ∧
              (((pool.run requests).state.serve request).state.snapshot o).bytesIssued =
                ((pool.run requests).state.snapshot o).bytesIssued := by
  obtain ⟨rfl, -⟩ := eq_fresh_of_new hpool
  have h := Conserved.run defaultOrder slabCapacity requests
  have hsound := (sound_fresh_pool defaultOrder slabCapacity).run requests
  have hcap := (frame_run (fresh defaultOrder slabCapacity) requests).2
  refine ⟨h, h.delivered, .run defaultOrder slabCapacity requests,
    fun request failure hfail hlarge => ?_⟩
  rw [show slabCapacity = (fresh defaultOrder slabCapacity).slabCapacity from rfl, ← hcap] at hlarge
  exact counted_of_error hsound hfail hlarge

/-- Two slices, an empty buffer, a range that is refused, a region that is handed over, a copy of a
region in memory of its own, and memory that is too large. -/
theorem run_conserved_of_seven :
    let requests : List Request := [.buffer .little 3, .defaultBuffer 0,
      .copyRange .big [1] 0 2, .copyRange .big [1, 2] 0 2,
      .adoptRegion { storage := .direct 0, order := .little, bytes := [1, 2] },
      .copyRegion { storage := .heap, order := .little, bytes := [1, 2, 3, 4, 5] },
      .buffer .big (maxAllocation + 1)]
    Pool.new .big 4 = .ok (fresh .big 4) ∧
      Conserved 4 ((fresh .big 4).served requests) ((fresh .big 4).run requests).state.stats ∧
      ((fresh .big 4).run requests).state.counters =
        { dedicatedAllocations := 2, dedicatedBytes := 0x8000000000000005, emptyReturns := 1,
          wrappedRegions := 1, copiedRegions := 1 } ∧
      (((fresh .big 4).run requests).state.serve (.copyRange .big [1] 0 2)).state.counters =
        ((fresh .big 4).run requests).state.counters := by
  intro requests
  have hpool : Pool.new .big 4 = .ok (fresh .big 4) := rfl
  obtain ⟨hconserved, -, -, herror⟩ := run_conserved hpool requests
  refine ⟨hpool, hconserved, by decide, ?_⟩
  exact (herror (.copyRange .big [1] 0 2) _ rfl rfl).1

end BytePool.Pool
