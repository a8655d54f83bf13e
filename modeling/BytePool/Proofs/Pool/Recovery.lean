import BytePool.Proofs.Pool.Conservation
import BytePool.Proofs.Pool.Reachable

/-!
# After an overflow

A request that overflows is counted before its memory is there, and that is all that it leaves. What
it leaves commutes with every request, so a run with such requests is the run without them and some
more on three counts.
-/
namespace BytePool

namespace Reply
variable {σ τ α β : Type}

/-- A bind in a part of the state is the bind in the whole. -/
lemma within_bind {f : σ → τ} {next : σ → α → Reply σ β} {next' : τ → α → Reply τ β}
    (reply : Reply σ α)
    (hnext : ∀ state value, (next state value).within f = next' (f state) value) :
    (reply.bind next).within f = (reply.within f).bind next' := by
  obtain ⟨_ | value, state, events⟩ := reply
  · rfl
  · have hlater := hnext state value
    simp only [within, bind, mk.injEq] at hlater ⊢
    simp [← hlater]

end Reply

/-! ### Slabs that were never made -/

namespace Arena

/-- The arena once it has counted slabs that could not be made. -/
def charge (slabs : Nat) (arena : Arena) : Arena :=
  { arena with slabsAllocated := arena.slabsAllocated + slabs }

@[simp] lemma charge_zero (arena : Arena) : arena.charge 0 = arena := rfl

variable {arena : Arena} {slabs : Nat}

/-- Only an arena of which no memory can hold a slab is ever charged. -/
lemma Sound.charge (h : arena.Sound) (hnone : arena.slabCapacity ≤ maxAllocation → slabs = 0) :
    (arena.charge slabs).Sound where
  id_eq slab hc := by
    rw [Arena.charge, hnone (h.capacity_le (Option.isSome_of_mem hc))]
    exact h.id_eq slab hc
  capacity_eq := h.capacity_eq
  capacity_le := h.capacity_le
  unused hc hmax := by
    rw [Arena.charge, hnone hmax]
    exact h.unused hc hmax

lemma Sound.carve_charge (h : arena.Sound)
    (hnone : arena.slabCapacity ≤ maxAllocation → slabs = 0) (length : Nat) :
    (arena.charge slabs).carve length = (arena.carve length).within (Arena.charge slabs) := by
  by_cases hmax : arena.slabCapacity ≤ maxAllocation
  · rw [hnone hmax]
    rfl
  · have hover : maxAllocation < arena.slabCapacity := Nat.lt_of_not_le hmax
    rw [h.carve_overflow hover, (h.charge hnone).carve_overflow hover]
    simp [Reply.overflow, Reply.within, Arena.charge, Nat.add_right_comm]

end Arena

namespace Pool

/-! ### What lost requests leave -/

namespace Request

/-- The sizes for which memory of their own was asked. -/
def ownSizes (slabCapacity : Nat) (requests : List Request) : List Nat :=
  (requests.map size).filter (slabCapacity ≤ ·)

/-- How many slices of an order were asked for. -/
def slicesFor (defaultOrder : ByteOrder) (slabCapacity : Nat) (o : ByteOrder)
    (requests : List Request) : Nat :=
  requests.countP fun request => request.size < slabCapacity ∧ request.order defaultOrder = o

/-- No request for a slice is lost as long as memory can hold a slab. -/
def CanBeLost (slabCapacity : Nat) (requests : List Request) : Prop :=
  slabCapacity ≤ maxAllocation → ∀ request ∈ requests, slabCapacity ≤ request.size

lemma CanBeLost.slicesFor_eq_zero {slabCapacity : Nat} {lost : List Request}
    (h : CanBeLost slabCapacity lost) (hmax : slabCapacity ≤ maxAllocation)
    (defaultOrder o : ByteOrder) : slicesFor defaultOrder slabCapacity o lost = 0 := by
  rw [slicesFor, List.countP_eq_zero]
  intro request hmem hslice
  have hle := h hmax request hmem
  have hlt := (of_decide_eq_true hslice).1
  omega

end Request

open Request (ownSizes slicesFor CanBeLost)

/-- A pool is what it was made with, what it counts and its arenas. -/
lemma eq_of_arenas {pool pool' : Pool} (hdefault : pool.defaultOrder = pool'.defaultOrder)
    (hcapacity : pool.slabCapacity = pool'.slabCapacity)
    (hcounters : pool.counters = pool'.counters)
    (harenas : ∀ o, pool.arenas.get o = pool'.arenas.get o) : pool = pool' := by
  obtain ⟨_, _, arenas, _⟩ := pool
  obtain ⟨_, _, arenas', _⟩ := pool'
  obtain rfl : arenas = arenas' := by
    ext o
    exact harenas o
  cases hdefault
  cases hcapacity
  cases hcounters
  rfl

/-- The pool once it has counted requests that came to nothing. -/
def charge (lost : List Request) (pool : Pool) : Pool :=
  { pool with
    arenas := .ofFn fun o =>
      (pool.arenas.get o).charge (slicesFor pool.defaultOrder pool.slabCapacity o lost)
    counters :=
      { pool.counters with
        dedicatedAllocations :=
          pool.counters.dedicatedAllocations + (ownSizes pool.slabCapacity lost).length
        dedicatedBytes :=
          pool.counters.dedicatedBytes + .ofNat (ownSizes pool.slabCapacity lost).sum } }

section Charge
variable (pool : Pool) (lost : List Request)

@[simp] lemma get_arenas_charge (o : ByteOrder) :
    (pool.charge lost).arenas.get o =
      (pool.arenas.get o).charge (slicesFor pool.defaultOrder pool.slabCapacity o lost) :=
  PerOrder.get_ofFn _ o

lemma charge_nil : pool.charge [] = pool := by
  refine eq_of_arenas rfl rfl ?_ ?_
  · simp [charge, ownSizes]
  · exact pool.get_arenas_charge []

lemma charge_charge (later : List Request) :
    (pool.charge later).charge lost = pool.charge (lost ++ later) := by
  refine eq_of_arenas rfl rfl ?_ ?_
  · simp only [charge, ownSizes, List.map_append, List.filter_append, List.length_append,
      List.sum_append_nat, UInt64.ofNat_add, Counters.mk.injEq, and_true]
    exact ⟨(Nat.add_right_comm ..).trans (Nat.add_assoc ..),
      (add_right_comm ..).trans (add_assoc ..)⟩
  · intro o
    simp only [get_arenas_charge, Arena.charge, slicesFor, List.countP_append, Arena.mk.injEq,
      true_and, and_true]
    exact (Nat.add_right_comm ..).trans (Nat.add_assoc ..)

lemma charge_setArena (order : ByteOrder) (arena : Arena) :
    (pool.setArena order arena).charge lost =
      (pool.charge lost).setArena order
        (arena.charge (slicesFor pool.defaultOrder pool.slabCapacity order lost)) := by
  refine eq_of_arenas rfl rfl rfl fun o => ?_
  rw [get_arenas_charge]
  by_cases ho : o = order
  · subst ho
    simp [setArena]
  · simp [setArena, PerOrder.get_set_of_ne _ ho]

end Charge

/-! ### Requests to a charged pool -/

section Serve
variable {pool : Pool} {lost : List Request} (h : pool.Sound)
  (hlost : CanBeLost pool.slabCapacity lost)
include h hlost

lemma carved_charge (order : ByteOrder) (n : Nat) :
    (pool.charge lost).carved order n = (pool.carved order n).within (charge lost) := by
  have hnone (hmax : (pool.arenas.get order).slabCapacity ≤ maxAllocation) :=
    hlost.slicesFor_eq_zero (h.slabCapacity_eq order ▸ hmax) pool.defaultOrder order
  have hcarve := (h.arena order).carve_charge hnone n
  unfold carved
  rw [get_arenas_charge, hcarve]
  simp only [Reply.map, Reply.within, charge_setArena]

omit h hlost in
lemma dedicated_charge (order : ByteOrder) (n : Nat) :
    (pool.charge lost).dedicated order n = (pool.dedicated order n).within (charge lost) := by
  have hcount : (pool.charge lost).count (fun c =>
      { c with
        dedicatedAllocations := c.dedicatedAllocations + 1
        dedicatedBytes := c.dedicatedBytes + UInt64.ofNat n }) =
      (pool.count fun c =>
        { c with
          dedicatedAllocations := c.dedicatedAllocations + 1
          dedicatedBytes := c.dedicatedBytes + UInt64.ofNat n }).charge lost := by
    simp only [count, charge, mk.injEq, Counters.mk.injEq, true_and, and_true]
    exact ⟨Nat.add_right_comm .., add_right_comm ..⟩
  unfold dedicated
  rw [hcount]
  split <;> rfl

lemma buffer_charge (order : ByteOrder) (n : Nat) :
    (pool.charge lost).buffer order n = (pool.buffer order n).within (charge lost) := by
  unfold buffer
  split
  case isTrue => rfl
  case isFalse =>
    rw [show (pool.charge lost).slabCapacity = pool.slabCapacity from rfl]
    split
    case isTrue => exact dedicated_charge order n
    case isFalse => exact carved_charge h hlost order n

lemma copyRange_charge (order : ByteOrder) (source : List UInt8) (offset length : Nat) :
    (pool.charge lost).copyRange order source offset length =
      (pool.copyRange order source offset length).within (charge lost) := by
  unfold copyRange
  split
  · rfl
  split
  · rfl
  rw [buffer_charge h hlost]
  exact (Reply.within_bind _ fun _ _ => rfl).symm

lemma copyRegion_charge (region : Region) :
    ((pool.charge lost).copyRegion region).within Prod.fst =
      ((pool.copyRegion region).within Prod.fst).within (charge lost) := by
  rw [copyRegion_eq_bind, copyRegion_eq_bind, buffer_charge h hlost]
  refine (Reply.within_bind _ fun state b => ?_).symm
  simp only [Request.finishRegion]
  split <;> rfl

/-- What has been lost makes no difference to a request. -/
theorem serve_charge (request : Request) :
    (pool.charge lost).serve request = (pool.serve request).within (charge lost) := by
  cases request with
  | buffer order capacity => exact buffer_charge h hlost order capacity
  | defaultBuffer capacity => exact buffer_charge h hlost pool.defaultOrder capacity
  | copyRange order source offset length =>
    exact copyRange_charge h hlost order source offset length
  | copyBytes source => exact copyRange_charge h hlost pool.defaultOrder source 0 source.length
  | adoptRegion region =>
    simp only [serve, adoptRegion]
    cases region.storage with
    | direct spare => rfl
    | readOnly | heap => exact copyRegion_charge h hlost region
  | copyRegion region => exact copyRegion_charge h hlost region

end Serve

/-- What has been lost makes no difference to a run. -/
theorem run_charge {pool : Pool} (h : pool.Sound) {lost : List Request}
    (hlost : CanBeLost pool.slabCapacity lost) (requests : List Request) :
    (pool.charge lost).run requests =
      { pool.run requests with state := (pool.run requests).state.charge lost } := by
  induction requests generalizing pool with
  | nil => rfl
  | cons request requests ih =>
    have hlater := ih (h.serve request) (by rwa [(frame_serve pool request).2])
    rw [run, run, serve_charge h hlost]
    simp only [Reply.within, hlater]

/-! ### Requests that overflow -/

def Served.overflows (x : Served) : Bool := x.2 = .error .capacityOverflow

/-- A request that overflows is charged to the pool, and nothing else comes of it. -/
lemma charge_of_overflow {pool : Pool} (h : pool.Sound) {request : Request}
    (ho : (pool.serve request).outcome = .error .capacityOverflow) :
    (pool.serve request).state = pool.charge [request] ∧
      CanBeLost pool.slabCapacity [request] := by
  have hw := way_serve h request
  rw [ho] at hw
  generalize (pool.serve request).state = after at hw
  cases hw with
  | tooLarge hl hmax =>
    obtain ⟨-, -, -, hle⟩ := Request.isLarge_iff.mp hl
    refine ⟨eq_of_arenas rfl rfl ?_ fun o => ?_, fun _ => by simpa using hle⟩
    · simp [charge, count, ownSizes, hle]
    · rw [get_arenas_charge]
      simp [slicesFor, count, Nat.not_lt.mpr hle]
  | noSlab o n hp hmax =>
    obtain ⟨-, -, horder, rfl, -, hlt⟩ := Request.of_pooled_eq_some hp
    refine ⟨eq_of_arenas rfl rfl ?_ fun p => ?_, fun hfits => absurd hmax (Nat.not_lt.mpr hfits)⟩
    · simp [charge, setArena, ownSizes, Nat.not_le.mpr hlt]
    · rw [get_arenas_charge]
      by_cases hp : p = o
      · subst hp
        simp [slicesFor, hlt, horder, setArena, Arena.charge]
      · simp [slicesFor, hlt, horder, setArena, PerOrder.get_set_of_ne _ hp, Ne.symm hp]

/-- What came of the requests of a run that did not overflow. -/
def spared (pool : Pool) (requests : List Request) : List Served :=
  (pool.served requests).filter (!·.overflows)

/-- The requests of a run that overflowed. -/
def lost (pool : Pool) (requests : List Request) : List Request :=
  ((pool.served requests).filter Served.overflows).map Prod.fst

lemma served_cons (pool : Pool) (request : Request) (requests : List Request) :
    pool.served (request :: requests) =
      (request, (pool.serve request).outcome) :: (pool.serve request).state.served requests := rfl

lemma served_charge {pool : Pool} (h : pool.Sound) {lost : List Request}
    (hlost : CanBeLost pool.slabCapacity lost) (requests : List Request) :
    (pool.charge lost).served requests = pool.served requests := by
  rw [served, run_charge h hlost]
  rfl

/-- Without the requests that overflow a run delivers the same, and the pool that is left is charged
with less. -/
lemma run_spared {pool : Pool} (h : pool.Sound) (requests : List Request) :
    pool.served ((pool.spared requests).map Prod.fst) = pool.spared requests ∧
      (pool.run requests).state =
        (pool.run ((pool.spared requests).map Prod.fst)).state.charge (pool.lost requests) ∧
      CanBeLost pool.slabCapacity (pool.lost requests) := by
  induction requests generalizing pool with
  | nil => exact ⟨rfl, (charge_nil pool).symm, by simp [lost, served, CanBeLost]⟩
  | cons request requests ih =>
    by_cases ho : (pool.serve request).outcome = .error .capacityOverflow
    · -- The rest runs from the charged pool, and so as it would from the pool before.
      obtain ⟨hcharge, hone⟩ := charge_of_overflow h ho
      obtain ⟨hserved, hstate, hlost⟩ := ih h
      have hcons : pool.served (request :: requests) =
          (request, .error .capacityOverflow) :: pool.served requests := by
        rw [served_cons, ho, hcharge, served_charge h hone]
      have hspared : pool.spared (request :: requests) = pool.spared requests := by
        simp [spared, hcons, Served.overflows]
      have hmore : pool.lost (request :: requests) = request :: pool.lost requests := by
        simp [lost, hcons, Served.overflows]
      rw [hspared, hmore]
      refine ⟨hserved, ?_, fun hmax => ?_⟩
      · rw [run, hcharge, run_charge h hone, hstate, charge_charge]
        rfl
      · exact List.forall_mem_cons.mpr ⟨hone hmax request (by simp), hlost hmax⟩
    · obtain ⟨hserved, hstate, hlost⟩ := ih (h.serve request)
      have hspared : pool.spared (request :: requests) =
          (request, (pool.serve request).outcome) ::
            (pool.serve request).state.spared requests := by
        simp [spared, served_cons, Served.overflows, ho]
      have hsame : pool.lost (request :: requests) = (pool.serve request).state.lost requests := by
        simp [lost, served_cons, Served.overflows, ho]
      rw [hspared, hsame, List.map_cons, served_cons, hserved]
      exact ⟨rfl, hstate, by rwa [(frame_serve pool request).2] at hlost⟩

/-! ### Recovery -/

/-- What a pool shows after a run, beside what it shows if the lost requests had never been made. -/
structure Recovered (defaultOrder : ByteOrder) (slabCapacity : Nat) (lost : List Request)
    (shown without : Stats) : Prop where
  currentSlab (o : ByteOrder) :
    (shown.arenas.get o).currentSlab = (without.arenas.get o).currentSlab
  cursor (o : ByteOrder) : (shown.arenas.get o).cursor = (without.arenas.get o).cursor
  slicesIssued (o : ByteOrder) :
    (shown.arenas.get o).slicesIssued = (without.arenas.get o).slicesIssued
  bytesIssued (o : ByteOrder) :
    (shown.arenas.get o).bytesIssued = (without.arenas.get o).bytesIssued
  slabsAllocated (o : ByteOrder) : (shown.arenas.get o).slabsAllocated =
    (without.arenas.get o).slabsAllocated + slicesFor defaultOrder slabCapacity o lost
  emptyReturns : shown.counters.emptyReturns = without.counters.emptyReturns
  wrappedRegions : shown.counters.wrappedRegions = without.counters.wrappedRegions
  copiedRegions : shown.counters.copiedRegions = without.counters.copiedRegions
  dedicatedAllocations : shown.counters.dedicatedAllocations =
    without.counters.dedicatedAllocations + (ownSizes slabCapacity lost).length
  dedicatedBytes : shown.counters.dedicatedBytes =
    without.counters.dedicatedBytes + .ofNat (ownSizes slabCapacity lost).sum

lemma recovered_charge (pool : Pool) (lost : List Request) :
    Recovered pool.defaultOrder pool.slabCapacity lost (pool.charge lost).stats pool.stats := by
  have hshown (o : ByteOrder) : (pool.charge lost).stats.arenas.get o =
      ((pool.arenas.get o).charge
        (slicesFor pool.defaultOrder pool.slabCapacity o lost)).snapshot := by
    rw [stats, PerOrder.get_ofFn, snapshot, get_arenas_charge]
  have hwithout (o : ByteOrder) : pool.stats.arenas.get o = (pool.arenas.get o).snapshot :=
    PerOrder.get_ofFn _ o
  constructor
  case currentSlab | cursor | slicesIssued | bytesIssued | slabsAllocated =>
    intro o
    rw [hshown, hwithout]
    rfl
  all_goals rfl

/-- A region that is to be copied is not touched before there is a buffer for it. -/
lemma copyRegion_of_overflow (pool : Pool) {region : Region}
    (h : (pool.copyRegion region).outcome = .error .capacityOverflow) :
    (pool.copyRegion region).state.2 = region := by
  cases ho : (pool.buffer region.order region.remaining).outcome with
  | error failure => simp [copyRegion, Reply.bind, Reply.within, ho]
  | ok b =>
    obtain ⟨filled, hfilled, -⟩ := outcome_finish (.copyRegion region)
      (pool.buffer region.order region.remaining).state b
    obtain ⟨last, heq, -⟩ := pool.copyRegion_spec region
    rw [heq, Reply.outcome_within, Reply.bind_of_ok ho] at h
    cases hfilled.symm.trans h

/-- A run in which requests overflow delivers to all others what it would without them, and leaves a
pool that has counted them and is otherwise the same. A region that could not be copied is as it
was, and the current slab of an order is always the last one that was counted. -/
theorem run_without_overflows {pool : Pool} (h : pool.Reachable) (requests : List Request) :
    pool.served ((pool.spared requests).map Prod.fst) = pool.spared requests ∧
      Recovered pool.defaultOrder pool.slabCapacity (pool.lost requests)
        (pool.run requests).state.stats
        (pool.run ((pool.spared requests).map Prod.fst)).state.stats ∧
      (∀ region, (pool.copyRegion region).outcome = .error .capacityOverflow →
        (pool.copyRegion region).state.2 = region) ∧
      ∀ o id, (pool.snapshot o).currentSlab = some id → (pool.snapshot o).slabsAllocated = id := by
  obtain ⟨hserved, hstate, -⟩ := run_spared h.sound requests
  refine ⟨hserved, ?_, fun region => pool.copyRegion_of_overflow, fun o id hid => ?_⟩
  · have hrecovered := recovered_charge (pool.run ((pool.spared requests).map Prod.fst)).state
      (pool.lost requests)
    rw [← hstate, (frame_run pool _).1, (frame_run pool _).2] at hrecovered
    exact hrecovered
  · obtain ⟨slab, hslab, rfl⟩ := Option.map_eq_some_iff.mp hid
    exact ((h.sound.arena o).id_eq slab hslab).symm

/-- No memory can hold a slab of this pool, so of five requests the slice and the memory of its own
are lost, and the three others are served or refused as ever. -/
theorem run_without_overflows_of_five :
    let pool := fresh .big (maxAllocation + 1)
    let requests : List Request := [.buffer .little 5, .copyRange .big [1] 0 2,
      .adoptRegion { storage := .direct 0, order := .little, bytes := [1, 2] },
      .buffer .big (maxAllocation + 2), .copyBytes []]
    pool.Reachable ∧
      pool.lost requests = [.buffer .little 5, .buffer .big (maxAllocation + 2)] ∧
      pool.served ((pool.spared requests).map Prod.fst) = pool.spared requests ∧
      ((pool.run requests).state.stats.arenas.get .little).slabsAllocated =
        ((pool.run ((pool.spared requests).map Prod.fst)).state.stats.arenas.get
          .little).slabsAllocated + 1 ∧
      (pool.run requests).state.stats.counters.dedicatedBytes =
        (pool.run ((pool.spared requests).map Prod.fst)).state.stats.counters.dedicatedBytes +
          0x8000000000000001 := by
  intro pool requests
  have hpool : pool.Reachable := reachable_fresh .big (Nat.succ_pos maxAllocation)
  have hlost : pool.lost requests = [.buffer .little 5, .buffer .big (maxAllocation + 2)] := by
    decide
  obtain ⟨hserved, hrecovered, -⟩ := run_without_overflows hpool requests
  rw [hlost] at hrecovered
  exact ⟨hpool, hlost, hserved, hrecovered.slabsAllocated .little, hrecovered.dedicatedBytes⟩

end Pool
end BytePool
