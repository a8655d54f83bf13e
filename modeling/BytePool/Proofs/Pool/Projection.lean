import BytePool.Proofs.Pool.Serve

/-!
# What an order receives

Of all requests to a pool the arena of an order sees those for fewer bytes than a slab has that are
made for this order. The others pass it by, so a pool gives an order what an arena of its own would
give.
-/
namespace BytePool

/-- The slice of an order that was delivered, if one was. -/
def sliceIn (o : ByteOrder) : Except Failure Buffer → Option Slice
  | .ok b => if b.order = o then b.origin.slice? else none
  | .error _ => none

lemma sliceIn_of_none {b : Buffer} (h : b.origin.slice? = none) (o : ByteOrder) :
    sliceIn o (.ok b) = none := by
  simp [sliceIn, h]

namespace Pool

/-- The slices of an order in the sequence of their requests. -/
def Run.slices (o : ByteOrder) (run : Run) : List Slice := run.outcomes.filterMap (sliceIn o)

/-- The size of a request that goes to the arena of an order, and nothing for one that does not. -/
def Request.pooled (defaultOrder : ByteOrder) (slabCapacity : Nat) (o : ByteOrder)
    (request : Request) : Option Nat :=
  if request.exceeds = false ∧ request.handsOver = false ∧ request.order defaultOrder = o ∧
      0 < request.size ∧ request.size < slabCapacity then some request.size
  else none

lemma Request.of_pooled_eq_some {defaultOrder : ByteOrder} {slabCapacity : Nat} {o : ByteOrder}
    {request : Request} {n : Nat} (h : request.pooled defaultOrder slabCapacity o = some n) :
    request.exceeds = false ∧ request.handsOver = false ∧ request.order defaultOrder = o ∧
      n = request.size ∧ 0 < n ∧ n < slabCapacity := by
  unfold pooled at h
  split at h
  case isTrue hall =>
    obtain ⟨hex, hover, ho, hpos, hlt⟩ := hall
    cases h
    exact ⟨hex, hover, ho, rfl, hpos, hlt⟩
  case isFalse => cases h

/-- Each arena serves its own order from slabs of the capacity of the pool. -/
structure Sound (pool : Pool) : Prop where
  order_eq : ∀ o, (pool.arenas.get o).order = o
  slabCapacity_eq : ∀ o, (pool.arenas.get o).slabCapacity = pool.slabCapacity
  arena : ∀ o, (pool.arenas.get o).Sound

lemma sound_fresh_pool (defaultOrder : ByteOrder) (slabCapacity : Nat) :
    (fresh defaultOrder slabCapacity).Sound where
  order_eq o := by simp [fresh]
  slabCapacity_eq o := by simp [fresh]
  arena o := by
    rw [fresh, PerOrder.get_ofFn]
    exact Arena.sound_fresh o slabCapacity

lemma eq_fresh_of_new {defaultOrder : ByteOrder} {slabCapacity : Nat} {pool : Pool}
    (h : Pool.new defaultOrder slabCapacity = .ok pool) :
    pool = fresh defaultOrder slabCapacity ∧ 0 < slabCapacity := by
  rw [Pool.new, ofSettings_eq] at h
  split at h
  case isTrue => cases h
  case isFalse hzero => exact ⟨(Except.ok.inj h).symm, Nat.pos_of_ne_zero hzero⟩

/-! ### Filling a buffer is no matter of the arenas -/

section Finish
variable (request : Request) (pool : Pool) (b : Buffer)

lemma arenas_finish : (request.finish pool b).state.arenas = pool.arenas := by
  cases request with
  | adoptRegion region | copyRegion region =>
    simp only [Request.finish, Request.finishRegion]
    split <;> rfl
  | _ => rfl

lemma arenas_bind_finish (reply : Reply Pool Buffer) :
    (reply.bind request.finish).state.arenas = reply.state.arenas := by
  cases ho : reply.outcome with
  | error failure => rw [Reply.bind_of_error ho]
  | ok b =>
    rw [Reply.bind_of_ok ho]
    exact arenas_finish request reply.state b

lemma sliceIn_bind_finish (o : ByteOrder) (reply : Reply Pool Buffer) :
    sliceIn o (reply.bind request.finish).outcome = sliceIn o reply.outcome := by
  cases ho : reply.outcome with
  | error failure => rw [Reply.bind_of_error ho]
  | ok b =>
    obtain ⟨filled, hfilled, horder, horigin, -⟩ := outcome_finish request reply.state b
    rw [Reply.bind_of_ok ho]
    simp only [hfilled, sliceIn, horder, horigin]

end Finish

/-! ### One request -/

section Step
variable {pool : Pool} (h : pool.Sound) (o : ByteOrder)

include h in
/-- A buffer comes from the arena of its order if it is smaller than a slab. -/
lemma buffer_arena (order : ByteOrder) (n : Nat) :
    if order = o ∧ 0 < n ∧ n < pool.slabCapacity then
      (pool.buffer order n).state.arenas.get o = ((pool.arenas.get o).allocate n).state ∧
        sliceIn o (pool.buffer order n).outcome = sliceOf ((pool.arenas.get o).allocate n).outcome
    else
      (pool.buffer order n).state.arenas.get o = pool.arenas.get o ∧
        sliceIn o (pool.buffer order n).outcome = none := by
  obtain rfl | hpos := Nat.eq_zero_or_pos n
  · rw [if_neg (by omega), buffer_zero]
    exact ⟨rfl, by simp [empty, Reply.done, sliceIn, Buffer.empty]⟩
  by_cases hc : pool.slabCapacity ≤ n
  · rw [if_neg (by omega), buffer_of_slabCapacity_le order hpos hc]
    obtain ⟨hstate, hout⟩ := dedicated_spec pool order n
    rw [hstate, hout]
    refine ⟨rfl, ?_⟩
    split
    · rfl
    · exact sliceIn_of_none rfl o
  have hlt : n < pool.slabCapacity := Nat.lt_of_not_le hc
  rw [buffer_of_lt_slabCapacity order hpos hlt]
  have hcarved : (pool.carved order n).outcome =
      ((pool.arenas.get order).carve n).outcome.map Buffer.clear := rfl
  have hsame : sliceIn order (pool.carved order n).outcome =
      sliceOf ((pool.arenas.get order).carve n).outcome := by
    obtain ⟨s, b, ho, -, -, hblank⟩ | ⟨-, ho⟩ := Arena.carve_outcome (pool.arenas.get order) n
    · rw [hcarved, ho, hblank (by rw [h.slabCapacity_eq]; exact hlt.le)]
      simp [Except.map, sliceIn, sliceOf, Buffer.clear, h.order_eq]
    · rw [hcarved, ho]
      rfl
  have hother (hne : order ≠ o) : sliceIn o (pool.carved order n).outcome = none := by
    obtain ⟨s, ho, -⟩ | ⟨-, ho⟩ := outcome_carved pool order n
    · simp [ho, sliceIn, Buffer.clear, h.order_eq, hne]
    · rw [ho]
      rfl
  by_cases heq : order = o
  · subst heq
    have halloc : (pool.arenas.get order).allocate n = (pool.arenas.get order).carve n :=
      Arena.allocate_of_le hpos (by rw [h.slabCapacity_eq]; exact hlt.le)
    rw [if_pos ⟨rfl, hpos, hlt⟩, halloc]
    exact ⟨by simp [carved, Reply.within, Reply.map, setArena], hsame⟩
  · rw [if_neg (by simp [heq])]
    exact ⟨PerOrder.get_set_of_ne _ (Ne.symm heq) _, hother heq⟩

include h in
/-- What a request does to the arena of an order: it is one request of the arena, or nothing. -/
lemma serve_arena (request : Request) :
    match request.pooled pool.defaultOrder pool.slabCapacity o with
    | some n =>
      (pool.serve request).state.arenas.get o = ((pool.arenas.get o).allocate n).state ∧
        sliceIn o (pool.serve request).outcome = sliceOf ((pool.arenas.get o).allocate n).outcome
    | none =>
      (pool.serve request).state.arenas.get o = pool.arenas.get o ∧
        sliceIn o (pool.serve request).outcome = none := by
  cases hex : request.exceeds with
  | true =>
    have hpooled : request.pooled pool.defaultOrder pool.slabCapacity o = none :=
      if_neg fun hall => by simp [hex] at hall
    obtain ⟨e, hserve⟩ := serve_of_exceeds pool request hex
    rw [hpooled, hserve]
    exact ⟨rfl, rfl⟩
  | false =>
    cases hover : request.handsOver with
    | true =>
      have hpooled : request.pooled pool.defaultOrder pool.slabCapacity o = none :=
        if_neg fun hall => by simp [hover] at hall
      obtain ⟨region, spare, -, -, hserve⟩ := serve_of_handsOver pool request hover
      rw [hpooled, hserve]
      exact ⟨rfl, sliceIn_of_none rfl o⟩
    | false =>
      have hstep := buffer_arena h o (request.order pool.defaultOrder) request.size
      rw [serve_eq_bind pool request hex hover, arenas_bind_finish, sliceIn_bind_finish]
      by_cases hp : request.order pool.defaultOrder = o ∧ 0 < request.size ∧
          request.size < pool.slabCapacity
      · rw [if_pos hp] at hstep
        have hpooled : request.pooled pool.defaultOrder pool.slabCapacity o = some request.size :=
          if_pos ⟨hex, hover, hp⟩
        rw [hpooled]
        exact hstep
      · rw [if_neg hp] at hstep
        have hpooled : request.pooled pool.defaultOrder pool.slabCapacity o = none :=
          if_neg fun hall => hp hall.2.2
        rw [hpooled]
        exact hstep

include h in
/-- A request that goes to an arena fails only if no memory can hold a slab. -/
lemma serve_of_pooled {request : Request} {n : Nat}
    (hp : request.pooled pool.defaultOrder pool.slabCapacity o = some n) :
    (∃ b, (pool.serve request).outcome = .ok b) ∨
      maxAllocation < pool.slabCapacity ∧
        (pool.serve request).outcome = .error .capacityOverflow := by
  obtain ⟨hex, hover, -, rfl, hpos, hlt⟩ := request.of_pooled_eq_some hp
  rw [serve_eq_bind pool request hex hover, buffer_of_lt_slabCapacity _ hpos hlt]
  obtain ⟨s, ho, -⟩ | ⟨hmax, ho⟩ :=
    outcome_carved pool (request.order pool.defaultOrder) request.size
  · obtain ⟨filled, hfilled, -, -⟩ := outcome_finish request
      (pool.carved (request.order pool.defaultOrder) request.size).state _
    rw [Reply.bind_of_ok ho]
    exact .inl ⟨filled, hfilled⟩
  · rw [Reply.bind_of_error ho]
    exact .inr ⟨by rwa [h.slabCapacity_eq] at hmax, rfl⟩

include h in
/-- A request leaves the arena of an order as it is, or the arena carves a slice from a slab. -/
lemma serve_arena_cases (request : Request) :
    (pool.serve request).state.arenas.get o = pool.arenas.get o ∨
      ∃ n, 0 < n ∧ n ≤ (pool.arenas.get o).slabCapacity ∧
        (pool.serve request).state.arenas.get o = ((pool.arenas.get o).carve n).state := by
  have hstep := serve_arena h o request
  cases hp : request.pooled pool.defaultOrder pool.slabCapacity o with
  | none =>
    rw [hp] at hstep
    exact .inl hstep.1
  | some n =>
    rw [hp] at hstep
    obtain ⟨-, -, -, -, hpos, hlt⟩ := request.of_pooled_eq_some hp
    rw [← h.slabCapacity_eq o] at hlt
    exact .inr ⟨n, hpos, hlt.le, by rw [hstep.1, Arena.allocate_of_le hpos hlt.le]⟩

end Step

/-! ### Frame -/

lemma frame_buffer (pool : Pool) (order : ByteOrder) (n : Nat) :
    (pool.buffer order n).state.defaultOrder = pool.defaultOrder ∧
      (pool.buffer order n).state.slabCapacity = pool.slabCapacity := by
  unfold buffer
  split
  · exact ⟨rfl, rfl⟩
  split
  · rw [(dedicated_spec pool order n).1]
    exact ⟨rfl, rfl⟩
  · exact ⟨rfl, rfl⟩

lemma frame_bind_finish (request : Request) (reply : Reply Pool Buffer) :
    (reply.bind request.finish).state.defaultOrder = reply.state.defaultOrder ∧
      (reply.bind request.finish).state.slabCapacity = reply.state.slabCapacity := by
  cases ho : reply.outcome with
  | error failure =>
    rw [Reply.bind_of_error ho]
    exact ⟨rfl, rfl⟩
  | ok b =>
    rw [Reply.bind_of_ok ho]
    cases request with
    | adoptRegion region | copyRegion region =>
      simp only [Request.finish, Request.finishRegion]
      split <;> exact ⟨rfl, rfl⟩
    | _ => exact ⟨rfl, rfl⟩

/-- A pool keeps its default order and the capacity of its slabs. -/
lemma frame_serve (pool : Pool) (request : Request) :
    (pool.serve request).state.defaultOrder = pool.defaultOrder ∧
      (pool.serve request).state.slabCapacity = pool.slabCapacity := by
  cases hex : request.exceeds with
  | true =>
    obtain ⟨e, hserve⟩ := serve_of_exceeds pool request hex
    rw [hserve]
    exact ⟨rfl, rfl⟩
  | false =>
    cases hover : request.handsOver with
    | true =>
      obtain ⟨region, spare, -, -, hserve⟩ := serve_of_handsOver pool request hover
      rw [hserve]
      exact ⟨rfl, rfl⟩
    | false =>
      obtain ⟨horder, hcap⟩ := frame_bind_finish request
        (pool.buffer (request.order pool.defaultOrder) request.size)
      obtain ⟨horder', hcap'⟩ :=
        frame_buffer pool (request.order pool.defaultOrder) request.size
      rw [serve_eq_bind pool request hex hover]
      exact ⟨horder.trans horder', hcap.trans hcap'⟩

lemma Sound.serve {pool : Pool} (h : pool.Sound) (request : Request) :
    (pool.serve request).state.Sound := by
  have hframe := (frame_serve pool request).2
  constructor
  case order_eq =>
    intro o
    obtain he | ⟨n, -, -, he⟩ := serve_arena_cases h o request
    · rw [he, h.order_eq]
    · rw [he, Arena.order_carve, h.order_eq]
  case slabCapacity_eq =>
    intro o
    obtain he | ⟨n, -, -, he⟩ := serve_arena_cases h o request
    · rw [he, hframe, h.slabCapacity_eq]
    · rw [he, hframe, Arena.slabCapacity_carve, h.slabCapacity_eq]
  case arena =>
    intro o
    obtain he | ⟨n, hpos, hle, he⟩ := serve_arena_cases h o request
    · rw [he]
      exact h.arena o
    · rw [he]
      exact (h.arena o).state_carve hpos hle

/-! ### Runs -/

lemma Sound.run {pool : Pool} (h : pool.Sound) (requests : List Request) :
    (pool.run requests).state.Sound := by
  induction requests generalizing pool with
  | nil => exact h
  | cons request requests ih => exact ih (h.serve request)

lemma frame_run (pool : Pool) (requests : List Request) :
    (pool.run requests).state.defaultOrder = pool.defaultOrder ∧
      (pool.run requests).state.slabCapacity = pool.slabCapacity := by
  induction requests generalizing pool with
  | nil => exact ⟨rfl, rfl⟩
  | cons request requests ih =>
    obtain ⟨horder, hcap⟩ := frame_serve pool request
    obtain ⟨horder', hcap'⟩ := ih (pool.serve request).state
    exact ⟨horder'.trans horder, hcap'.trans hcap⟩

lemma run_append (pool : Pool) (first later : List Request) :
    (pool.run (first ++ later)).outcomes =
      (pool.run first).outcomes ++ ((pool.run first).state.run later).outcomes := by
  induction first generalizing pool with
  | nil => rfl
  | cons request requests ih => simp [run, ih]

lemma slices_run_cons (pool : Pool) (o : ByteOrder) (request : Request) (requests : List Request) :
    (pool.run (request :: requests)).slices o =
      (sliceIn o (pool.serve request).outcome).toList ++
        ((pool.serve request).state.run requests).slices o := by
  simp only [Run.slices, run, List.filterMap_cons]
  cases sliceIn o (pool.serve request).outcome <;> rfl

/-- A run of a pool is, for one order, the run of the arena of the order. -/
lemma run_arena {pool : Pool} (h : pool.Sound) (o : ByteOrder) (requests : List Request) :
    (pool.run requests).state.arenas.get o =
        ((pool.arenas.get o).run
          (requests.filterMap (·.pooled pool.defaultOrder pool.slabCapacity o))).state ∧
      (pool.run requests).slices o =
        ((pool.arenas.get o).run
          (requests.filterMap (·.pooled pool.defaultOrder pool.slabCapacity o))).slices := by
  induction requests generalizing pool with
  | nil => exact ⟨rfl, rfl⟩
  | cons request requests ih =>
    obtain ⟨hstate, hslices⟩ := ih (h.serve request)
    rw [(frame_serve pool request).1, (frame_serve pool request).2] at hstate hslices
    have hstep := serve_arena h o request
    rw [slices_run_cons, run, hslices, hstate, List.filterMap_cons]
    cases hp : request.pooled pool.defaultOrder pool.slabCapacity o with
    | none =>
      rw [hp] at hstep
      rw [hstep.1, hstep.2]
      exact ⟨rfl, rfl⟩
    | some n =>
      rw [hp] at hstep
      rw [hstep.1, hstep.2]
      refine ⟨rfl, ?_⟩
      simp only [Arena.Run.slices, Arena.run, List.filterMap_cons]
      cases sliceOf ((pool.arenas.get o).allocate n).outcome <;> rfl

/-! ### Requests that pass an arena by -/

/-- Requests of the other order, for no bytes or for a slab or more, regions that become buffers as
they are, and requests that fail, unless they fail since no memory can hold a slab. -/
inductive Request.PassesBy (pool : Pool) (o : ByteOrder) (request : Request) : Prop
  | otherOrder (h : request.order pool.defaultOrder ≠ o)
  | empty (h : request.size = 0)
  | large (h : pool.slabCapacity ≤ request.size)
  | handedOver (h : request.handsOver = true)
  | failed (first : List Request) (failure : Failure)
      (h : ((pool.run first).state.serve request).outcome = .error failure)
      (hslab : failure = .capacityOverflow → pool.slabCapacity ≤ maxAllocation)

lemma Request.PassesBy.pooled_eq_none {pool : Pool} (hs : pool.Sound) {o : ByteOrder}
    {request : Request} (h : request.PassesBy pool o) :
    request.pooled pool.defaultOrder pool.slabCapacity o = none := by
  cases h with
  | otherOrder h => exact if_neg fun hall => h hall.2.2.1
  | empty h => exact if_neg fun hall => by omega
  | large h => exact if_neg fun hall => by omega
  | handedOver h => exact if_neg fun hall => by simp [h] at hall
  | failed first failure h hslab =>
    by_contra hne
    obtain ⟨n, hn⟩ := Option.ne_none_iff_exists'.mp hne
    obtain ⟨horder, hcap⟩ := frame_run pool first
    rw [← horder, ← hcap] at hn
    obtain ⟨b, ho⟩ | ⟨hmax, ho⟩ := serve_of_pooled (hs.run first) o hn
    · simp [ho] at h
    · rw [ho] at h
      cases h
      have := hslab rfl
      omega

lemma run_of_passesBy {pool : Pool} (hs : pool.Sound) {o : ByteOrder} {request : Request}
    (h : request.PassesBy pool o) (first later : List Request) :
    (pool.run (first ++ request :: later)).state.arenas.get o =
        (pool.run (first ++ later)).state.arenas.get o ∧
      (pool.run (first ++ request :: later)).slices o = (pool.run (first ++ later)).slices o := by
  have hsame : (first ++ request :: later).filterMap
      (·.pooled pool.defaultOrder pool.slabCapacity o) =
        (first ++ later).filterMap (·.pooled pool.defaultOrder pool.slabCapacity o) := by
    simp [h.pooled_eq_none hs]
  obtain ⟨hstate, hslices⟩ := run_arena hs o (first ++ request :: later)
  obtain ⟨hstate', hslices'⟩ := run_arena hs o (first ++ later)
  rw [hstate, hslices, hsame, hstate', hslices']
  exact ⟨rfl, rfl⟩

/-- No slice is delivered if no memory can hold a slab. -/
lemma slices_run_eq_nil {pool : Pool} (h : pool.Sound) (hmax : maxAllocation < pool.slabCapacity)
    (o : ByteOrder) (requests : List Request) : (pool.run requests).slices o = [] := by
  induction requests generalizing pool with
  | nil => rfl
  | cons request requests ih =>
    have hlater := ih (h.serve request) (by rwa [(frame_serve pool request).2])
    have hnone : sliceIn o (pool.serve request).outcome = none := by
      have hstep := serve_arena h o request
      cases hp : request.pooled pool.defaultOrder pool.slabCapacity o with
      | none =>
        rw [hp] at hstep
        exact hstep.2
      | some n =>
        rw [hp] at hstep
        rw [hstep.2, Arena.allocate]
        split
        · rfl
        · rw [(h.arena o).carve_overflow (by rwa [h.slabCapacity_eq])]
          rfl
    rw [slices_run_cons, hlater, hnone]
    rfl

/-- An order receives what an arena of its own would give for the requests that are made for this
order and smaller than a slab. So no other request makes any difference to it, wherever in the run
it is, and none that fails makes a difference to the slices. -/
theorem run_eq_arena_run {defaultOrder : ByteOrder} {slabCapacity : Nat} {pool : Pool}
    (hpool : Pool.new defaultOrder slabCapacity = .ok pool) {o : ByteOrder} {arena : Arena}
    (harena : Arena.new o slabCapacity = .ok arena) :
    (∀ requests,
      (pool.run requests).state.snapshot o =
          (arena.run (requests.filterMap (·.pooled defaultOrder slabCapacity o))).state.snapshot ∧
        (pool.run requests).slices o =
          (arena.run (requests.filterMap (·.pooled defaultOrder slabCapacity o))).slices) ∧
      (∀ request : Request, request.PassesBy pool o → ∀ first later,
        (pool.run (first ++ request :: later)).state.snapshot o =
            (pool.run (first ++ later)).state.snapshot o ∧
          (pool.run (first ++ request :: later)).slices o = (pool.run (first ++ later)).slices o) ∧
      ∀ (first : List Request) (request : Request) (failure : Failure),
        ((pool.run first).state.serve request).outcome = .error failure → ∀ later,
          (pool.run (first ++ request :: later)).slices o =
            (pool.run (first ++ later)).slices o := by
  obtain ⟨rfl, -⟩ := eq_fresh_of_new hpool
  obtain rfl := Arena.eq_of_new harena
  have hs := sound_fresh_pool defaultOrder slabCapacity
  have hget : (fresh defaultOrder slabCapacity).arenas.get o = { order := o, slabCapacity } :=
    PerOrder.get_ofFn _ o
  have halone (requests : List Request) := run_arena hs o requests
  rw [hget] at halone
  refine ⟨fun requests => ⟨congrArg Arena.snapshot (halone requests).1, (halone requests).2⟩,
    fun request hr first later => ?_, fun first request failure hfail later => ?_⟩
  · obtain ⟨hstate, hslices⟩ := run_of_passesBy hs hr first later
    exact ⟨congrArg Arena.snapshot hstate, hslices⟩
  · by_cases hmax : slabCapacity ≤ maxAllocation
    · exact (run_of_passesBy hs (.failed first failure hfail fun _ => hmax) first later).2
    · rw [slices_run_eq_nil hs (Nat.lt_of_not_le hmax),
        slices_run_eq_nil hs (Nat.lt_of_not_le hmax)]

/-- Of these requests the arena of the little-endian order sees two; one of the other order and one
that is refused make no difference to it. -/
theorem run_eq_arena_run_of_two :
    Pool.new .big 4 = .ok (fresh .big 4) ∧
      Arena.new .little 4 = .ok { order := .little, slabCapacity := 4 } ∧
      ((fresh .big 4).run
        [.buffer .little 3, .defaultBuffer 2, .copyBytes [7], .buffer .little 0, .buffer .little 4,
          .adoptRegion { storage := .direct 0, order := .little, bytes := [1, 2] },
          .copyRange .little [1] 0 2,
          .copyRegion
            { storage := .heap, order := .little, bytes := [1, 2, 3], position := 1 }]).slices
        .little = [⟨1, 0, 3⟩, ⟨2, 0, 2⟩] ∧
      ((fresh .big 4).run [.buffer .little 3, .buffer .big 3]).state.snapshot .little =
        ((fresh .big 4).run [.buffer .little 3]).state.snapshot .little ∧
      ((fresh .big 4).run [.copyRange .little [1] 0 2, .buffer .little 3]).slices .little =
        ((fresh .big 4).run [.buffer .little 3]).slices .little := by
  have hpool : Pool.new .big 4 = .ok (fresh .big 4) := rfl
  have harena : Arena.new .little 4 = .ok { order := .little, slabCapacity := 4 } := rfl
  obtain ⟨halone, hpass, hfail⟩ := run_eq_arena_run hpool harena
  refine ⟨hpool, harena, (halone _).2.trans (by decide), ?_, ?_⟩
  · exact (hpass (.buffer .big 3) (.otherOrder (by decide)) [.buffer .little 3] []).1
  · exact hfail [] (.copyRange .little [1] 0 2) _ rfl [.buffer .little 3]

end Pool
end BytePool
