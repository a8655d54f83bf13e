import BytePool.Proofs.Carving.Even
import BytePool.Proofs.Pool.Tally

/-!
# Callers that share a pool

Callers take turns at a pool in steps that nothing can come between: one carving of an arena or one
addition to a counter. A request for memory of its own takes two additions, and other callers may
take steps between them. Whatever the sequence of the steps, the pool ends as if the requests had
been served one after the other.
-/
namespace BytePool.Pool

/-! ### Steps -/

/-- The first addition of a request for memory of its own. -/
def countAllocation (pool : Pool) : Pool :=
  pool.count fun c => { c with dedicatedAllocations := c.dedicatedAllocations + 1 }

/-- The second addition, after which the memory is delivered. -/
def countBytes (pool : Pool) (order : ByteOrder) (n : Nat) : Reply Pool Buffer :=
  let counted := pool.count fun c => { c with dedicatedBytes := c.dedicatedBytes + UInt64.ofNat n }
  let reply : Reply Pool Buffer :=
    if maxAllocation < n then .overflow counted else .done (Buffer.dedicated order n) counted
  reply.emit (.dedicated order n pool.slabCapacity)

lemma dedicated_eq_countBytes (pool : Pool) (order : ByteOrder) (n : Nat) :
    pool.dedicated order n = pool.countAllocation.countBytes order n := rfl

/-- What a caller has still to do. -/
structure Caller where
  pending : List Demand
  /-- Whether the first addition for the first of them has been made. -/
  halfway : Bool := false
  deriving DecidableEq, Repr

/-- No more steps than these are left to a caller. -/
def Caller.left (c : Caller) : Nat := 2 * c.pending.length - c.halfway.toNat

/-- A pool and its callers. -/
structure Sharing where
  pool : Pool
  callers : List Caller
  deriving DecidableEq, Repr

/-- A buffer that is delivered to a caller. -/
structure Service where
  caller : Nat
  demand : Demand
  outcome : Except Failure Buffer

namespace Sharing

def start (pool : Pool) (demands : List (List Demand)) : Sharing :=
  ⟨pool, demands.map fun pending => { pending }⟩

/-- No caller has anything left to do. -/
def IsDone (s : Sharing) : Prop := ∀ c ∈ s.callers, c.pending = []

/-- The step of a caller, and the buffer that is delivered with it, if one is. -/
inductive Step (s : Sharing) : Option Service → Sharing → Prop
  | empty {i : Nat} {d : Demand} {rest : List Demand}
      (hi : s.callers[i]? = some ⟨d :: rest, false⟩) (h : d.size = 0) :
      Step s (some ⟨i, d, s.pool.empty.outcome⟩)
        ⟨s.pool.empty.state, s.callers.set i ⟨rest, false⟩⟩
  | carve {i : Nat} {d : Demand} {rest : List Demand}
      (hi : s.callers[i]? = some ⟨d :: rest, false⟩) (hpos : 0 < d.size)
      (hlt : d.size < s.pool.slabCapacity) :
      Step s (some ⟨i, d, (s.pool.carved d.order d.size).outcome⟩)
        ⟨(s.pool.carved d.order d.size).state, s.callers.set i ⟨rest, false⟩⟩
  | count {i : Nat} {d : Demand} {rest : List Demand}
      (hi : s.callers[i]? = some ⟨d :: rest, false⟩) (hpos : 0 < d.size)
      (hle : s.pool.slabCapacity ≤ d.size) :
      Step s none ⟨s.pool.countAllocation, s.callers.set i ⟨d :: rest, true⟩⟩
  | deliver {i : Nat} {d : Demand} {rest : List Demand}
      (hi : s.callers[i]? = some ⟨d :: rest, true⟩) :
      Step s (some ⟨i, d, (s.pool.countBytes d.order d.size).outcome⟩)
        ⟨(s.pool.countBytes d.order d.size).state, s.callers.set i ⟨rest, false⟩⟩

/-- Any sequence of steps, with the buffers that were delivered in it. -/
inductive Steps (s : Sharing) : List Service → Sharing → Prop
  | refl : Steps s [] s
  | tail {trace : List Service} {t u : Sharing} {served : Option Service}
      (h : Steps s trace t) (hstep : Step t served u) : Steps s (trace ++ served.toList) u

end Sharing

/-- One caller out of many, and what is put in its place. -/
lemma exists_perm_set {callers : List Caller} {i : Nat} {c : Caller} (hi : callers[i]? = some c)
    (c' : Caller) :
    ∃ others, callers.Perm (c :: others) ∧ (callers.set i c').Perm (c' :: others) := by
  obtain ⟨hlt, rfl⟩ := List.getElem?_eq_some_iff.mp hi
  refine ⟨callers.take i ++ callers.drop (i + 1), ?_, ?_⟩
  · conv_lhs => rw [← List.take_append_drop i callers, List.drop_eq_getElem_cons hlt]
    exact List.perm_middle
  · rw [List.set_eq_take_append_cons_drop, if_pos hlt]
    exact List.perm_middle

/-! ### All callers come to an end -/

namespace Sharing
variable {s t u : Sharing}

/-- As long as there is something to do, some caller can take a step. -/
lemma exists_step (h : ¬s.IsDone) : ∃ served t, Step s served t := by
  obtain ⟨c, hc, hpending⟩ : ∃ c ∈ s.callers, c.pending ≠ [] := by
    simpa [IsDone] using h
  obtain ⟨i, hi⟩ := List.getElem?_of_mem hc
  obtain ⟨_ | ⟨d, rest⟩, _ | _⟩ := c
  · exact absurd rfl hpending
  · exact absurd rfl hpending
  · obtain h0 | hpos := Nat.eq_zero_or_pos d.size
    · exact ⟨_, _, .empty hi h0⟩
    obtain hlt | hle := Nat.lt_or_ge d.size s.pool.slabCapacity
    · exact ⟨_, _, .carve hi hpos hlt⟩
    · exact ⟨_, _, .count hi hpos hle⟩
  · exact ⟨_, _, .deliver hi⟩

lemma sum_left_set {callers : List Caller} {i : Nat} {c c' : Caller} (hi : callers[i]? = some c)
    (hlt : c'.left < c.left) :
    ((callers.set i c').map Caller.left).sum < (callers.map Caller.left).sum := by
  obtain ⟨others, hperm, hset⟩ := exists_perm_set hi c'
  rw [(hperm.map _).sum_eq, (hset.map _).sum_eq, List.map_cons, List.map_cons, List.sum_cons,
    List.sum_cons]
  omega

lemma Step.left_lt {served : Option Service} (h : Step s served t) :
    (t.callers.map Caller.left).sum < (s.callers.map Caller.left).sum := by
  cases h with
  | empty hi | carve hi | count hi | deliver hi =>
    refine sum_left_set hi ?_
    simp only [Caller.left, List.length_cons, Bool.toNat_false, Bool.toNat_true]
    omega

lemma Steps.append {trace later : List Service} (h : Steps s trace t) (hlater : Steps t later u) :
    Steps s (trace ++ later) u := by
  induction hlater with
  | refl => simpa using h
  | tail _ hlast ih =>
    rw [← List.append_assoc]
    exact ih.tail hlast

/-- Callers never block each other: from everywhere there is a way on which all of them are done. -/
theorem exists_steps_isDone (s : Sharing) : ∃ trace t, Steps s trace t ∧ t.IsDone := by
  induction hleft : (s.callers.map Caller.left).sum using Nat.strong_induction_on
    generalizing s with
  | _ left ih =>
    by_cases hdone : s.IsDone
    · exact ⟨[], s, .refl, hdone⟩
    · obtain ⟨served, t, hstep⟩ := exists_step hdone
      obtain ⟨trace, u, hsteps, hu⟩ := ih _ (hleft ▸ hstep.left_lt) t rfl
      exact ⟨_, u, (Steps.refl.tail hstep).append hsteps, hu⟩

end Sharing

/-! ### Additions that are ahead of their requests -/

/-- A pool with some first additions made for requests that are not served yet. -/
def ahead (pool : Pool) (k : Nat) : Pool :=
  pool.count fun c => { c with dedicatedAllocations := c.dedicatedAllocations + k }

section Ahead
variable (pool : Pool) (k : Nat) (order : ByteOrder) (n : Nat)

lemma ahead_zero : pool.ahead 0 = pool := rfl

lemma countAllocation_ahead : (pool.ahead k).countAllocation = pool.ahead (k + 1) := rfl

lemma empty_ahead :
    (pool.ahead k).empty.outcome = pool.empty.outcome ∧
      (pool.ahead k).empty.state = pool.empty.state.ahead k := ⟨rfl, rfl⟩

lemma carved_ahead :
    ((pool.ahead k).carved order n).outcome = (pool.carved order n).outcome ∧
      ((pool.ahead k).carved order n).state = (pool.carved order n).state.ahead k := ⟨rfl, rfl⟩

/-- The second addition catches up with the first. -/
lemma countBytes_ahead :
    ((pool.ahead (k + 1)).countBytes order n).outcome = (pool.dedicated order n).outcome ∧
      ((pool.ahead (k + 1)).countBytes order n).state = (pool.dedicated order n).state.ahead k := by
  have hcount : pool.ahead (k + 1) = (pool.countAllocation).ahead k := by
    simp only [ahead, countAllocation, count, Nat.add_assoc, Nat.add_comm 1]
  rw [hcount, dedicated_eq_countBytes]
  simp only [countBytes]
  split <;> exact ⟨rfl, rfl⟩

end Ahead

/-! ### The sequence of deliveries -/

lemma countP_set {callers : List Caller} {i : Nat} {c : Caller} (hi : callers[i]? = some c)
    (c' : Caller) :
    (callers.set i c').countP (·.halfway) + c.halfway.toNat =
      callers.countP (·.halfway) + c'.halfway.toNat := by
  obtain ⟨others, hperm, hset⟩ := exists_perm_set hi c'
  rw [hperm.countP_eq, hset.countP_eq, List.countP_cons, List.countP_cons]
  cases c.halfway <;> cases c'.halfway <;> simp

/-- The requests of a run, in the sequence in which they were served. -/
def requestsOf (trace : List Service) : List Request := trace.map (·.demand.request)

/-- Callers have come as far as if the requests that are served had been served one after the
other, but for the first additions of those who are halfway. -/
structure Sharing.Linear (pool : Pool) (demands : List (List Demand)) (trace : List Service)
    (s : Sharing) : Prop where
  pool_eq : s.pool = (pool.run (requestsOf trace)).state.ahead (s.callers.countP (·.halfway))
  outcomes_eq : trace.map (·.outcome) = (pool.run (requestsOf trace)).outcomes
  each (i : Nat) : demands[i]? = s.callers[i]?.map fun c =>
    (trace.filter (·.caller = i)).map (·.demand) ++ c.pending
  all : (trace.map (·.demand) ++ s.callers.flatMap (·.pending)).Perm demands.flatten
  large : ∀ c ∈ s.callers, c.halfway → ∃ d rest, c.pending = d :: rest ∧ 0 < d.size ∧
    pool.slabCapacity ≤ d.size

namespace Sharing.Linear
variable {pool : Pool} {demands : List (List Demand)} {trace : List Service} {s t : Sharing}

lemma start (pool : Pool) (demands : List (List Demand)) :
    Linear pool demands [] (Sharing.start pool demands) where
  pool_eq := by
    have hnone : (Sharing.start pool demands).callers.countP (·.halfway) = 0 := by
      simp [Sharing.start, List.countP_eq_zero]
    rw [hnone]
    rfl
  outcomes_eq := rfl
  each i := by simp [Sharing.start, Function.comp_def]
  all := by simp [Sharing.start, List.flatMap_map]
  large := by simp [Sharing.start]

/-- A delivery goes on with the run of the requests that are served. -/
lemma deliver (h : Linear pool demands trace s) {i : Nat} {d : Demand} {rest : List Demand}
    {halfway : Bool} (hi : s.callers[i]? = some ⟨d :: rest, halfway⟩) {reply : Reply Pool Buffer}
    (houtcome : reply.outcome =
      ((pool.run (requestsOf trace)).state.buffer d.order d.size).outcome)
    (hstate : reply.state = ((pool.run (requestsOf trace)).state.buffer d.order d.size).state.ahead
      ((s.callers.set i ⟨rest, false⟩).countP (·.halfway))) :
    Linear pool demands (trace ++ [⟨i, d, reply.outcome⟩])
      ⟨reply.state, s.callers.set i ⟨rest, false⟩⟩ := by
  have hrequests : requestsOf (trace ++ [⟨i, d, reply.outcome⟩]) =
      requestsOf trace ++ [d.request] := by simp [requestsOf]
  obtain ⟨others, hperm, hset⟩ := exists_perm_set hi ⟨rest, false⟩
  obtain ⟨hlt, -⟩ := List.getElem?_eq_some_iff.mp hi
  constructor
  case pool_eq =>
    rw [hrequests, state_run_append, hstate]
    rfl
  case outcomes_eq =>
    rw [hrequests, run_append, List.map_append, h.outcomes_eq]
    simp [run, serve, Demand.request, houtcome]
  case each =>
    intro j
    by_cases hj : j = i
    · subst hj
      rw [h.each, hi, List.getElem?_set_self hlt]
      simp
    · rw [h.each, List.getElem?_set_ne (Ne.symm hj)]
      simp [Ne.symm hj]
  case all =>
    refine .trans ?_ h.all
    have hold := hperm.flatMap_right (·.pending)
    have hnew := hset.flatMap_right (·.pending)
    simp only [List.flatMap_cons] at hold hnew
    rw [List.map_append, List.append_assoc]
    refine .append_left _ (.trans ?_ hold.symm)
    exact .cons d hnew
  case large =>
    intro c hc hhalf
    obtain hc | rfl := List.mem_or_eq_of_mem_set hc
    · exact h.large c hc hhalf
    · cases hhalf

/-- Every step keeps the callers in line. -/
lemma step (h : Linear pool demands trace s) {served : Option Service}
    (hstep : Step s served t) : Linear pool demands (trace ++ served.toList) t := by
  have hcap : s.pool.slabCapacity = pool.slabCapacity := by
    rw [h.pool_eq]
    exact (frame_run pool _).2
  cases hstep with
  | @empty i d rest hi h0 =>
    have hcount := countP_set hi ⟨rest, false⟩
    simp only [Bool.toNat_false, Nat.add_zero] at hcount
    obtain ⟨houtcome, hstate⟩ := empty_ahead (pool.run (requestsOf trace)).state
      (s.callers.countP (·.halfway))
    refine h.deliver hi ?_ ?_
    · rw [h.pool_eq, houtcome, h0, buffer_zero]
    · rw [h.pool_eq, hstate, hcount, h0, buffer_zero]
  | @carve i d rest hi hpos hlt =>
    have hcount := countP_set hi ⟨rest, false⟩
    simp only [Bool.toNat_false, Nat.add_zero] at hcount
    have hsmall : d.size < (pool.run (requestsOf trace)).state.slabCapacity := by
      rwa [(frame_run pool _).2, ← hcap]
    have hbuffer := buffer_of_lt_slabCapacity d.order hpos hsmall
    obtain ⟨houtcome, hstate⟩ := carved_ahead (pool.run (requestsOf trace)).state
      (s.callers.countP (·.halfway)) d.order d.size
    refine h.deliver hi ?_ ?_
    · rw [h.pool_eq, houtcome, hbuffer]
    · rw [h.pool_eq, hstate, hcount, hbuffer]
  | @count i d rest hi hpos hle =>
    obtain ⟨others, hperm, hset⟩ := exists_perm_set hi ⟨d :: rest, true⟩
    have hcount := countP_set hi ⟨d :: rest, true⟩
    simp only [Bool.toNat_false, Nat.add_zero, Bool.toNat_true] at hcount
    obtain ⟨hlt, -⟩ := List.getElem?_eq_some_iff.mp hi
    rw [Option.toList_none, List.append_nil]
    constructor
    case pool_eq => rw [hcount, h.pool_eq, countAllocation_ahead]
    case outcomes_eq => exact h.outcomes_eq
    case each =>
      intro j
      by_cases hj : j = i
      · subst hj
        rw [h.each, hi, List.getElem?_set_self hlt]
        rfl
      · rw [h.each, List.getElem?_set_ne (Ne.symm hj)]
    case all =>
      have hold := hperm.flatMap_right (·.pending)
      have hnew := hset.flatMap_right (·.pending)
      exact .trans (.append_left _ (hnew.trans hold.symm)) h.all
    case large =>
      intro c hc hhalf
      obtain hc | rfl := List.mem_or_eq_of_mem_set hc
      · exact h.large c hc hhalf
      · exact ⟨d, rest, rfl, hpos, by rwa [← hcap]⟩
  | @deliver i d rest hi =>
    have hcount := countP_set hi ⟨rest, false⟩
    simp only [Bool.toNat_false, Nat.add_zero, Bool.toNat_true] at hcount
    obtain ⟨_, _, hpending, hpos, hle⟩ := h.large _ (List.mem_of_getElem? hi) rfl
    cases hpending
    have hlarge : (pool.run (requestsOf trace)).state.slabCapacity ≤ d.size := by
      rwa [(frame_run pool _).2]
    have hbuffer := buffer_of_slabCapacity_le d.order hpos hlarge
    obtain ⟨houtcome, hstate⟩ := countBytes_ahead (pool.run (requestsOf trace)).state
      ((s.callers.set i ⟨rest, false⟩).countP (·.halfway)) d.order d.size
    refine h.deliver hi ?_ ?_
    · rw [h.pool_eq, ← hcount, houtcome, hbuffer]
    · rw [h.pool_eq, ← hcount, hstate, hbuffer]

lemma steps (h : Linear pool demands [] s) (hsteps : Steps s trace t) :
    Linear pool demands trace t := by
  induction hsteps with
  | refl => exact h
  | tail _ hstep ih => exact ih.step hstep

/-- Nobody is halfway when all is done. -/
lemma pool_eq_of_isDone (h : Linear pool demands trace s) (hdone : s.IsDone) :
    s.pool = (pool.run (requestsOf trace)).state := by
  have hnone : s.callers.countP (·.halfway) = 0 := by
    refine List.countP_eq_zero.mpr fun c hc hhalf => ?_
    obtain ⟨d, rest, hpending, -⟩ := h.large c hc hhalf
    rw [hdone c hc] at hpending
    cases hpending
  rw [h.pool_eq, hnone, ahead_zero]

end Sharing.Linear
end BytePool.Pool
