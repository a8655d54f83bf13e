import BytePool.Proofs.Memory.World

/-!
# The two machines agree

Buffers that share the arrays of slabs cannot be told from buffers that have their bytes to
themselves, whatever the sequence of the commands.
-/
namespace BytePool

/-! ### Deliveries -/

/-- How the mark of an arena moves on with what is delivered: a slice of zero bytes lies between the
old mark and the new one, and nothing else moves the mark. -/
inductive Delivery (arena arena' : Arena) : Except Failure Buffer → Prop
  | slice {b : Buffer} (s : Slice)
      (hb : b = s.blank arena.order ∨ b = (s.blank arena.order).clear)
      (hbehind : s.Behind arena.mark) (hstop : s.stop ≤ arena.slabCapacity)
      (hmark : arena'.mark = s.mark) : Delivery arena arena' (.ok b)
  | own {b : Buffer} (hslice : b.origin.slice? = none) (hreader : b.readerIndex = 0)
      (hmark : arena'.mark = arena.mark) : Delivery arena arena' (.ok b)
  | failure {failure : Failure} (hmark : arena'.mark = arena.mark) :
      Delivery arena arena' (.error failure)

section Arena
variable {arena : Arena} (h : arena.Sound)
include h

lemma delivery_carve {n : Nat} (hpos : 0 < n) (hle : n ≤ arena.slabCapacity) :
    Delivery arena (arena.carve n).state (arena.carve n).outcome ∧
      Delivery arena (arena.carve n).state ((arena.carve n).outcome.map Buffer.clear) := by
  by_cases hmax : arena.slabCapacity ≤ maxAllocation
  · obtain ⟨ho, hs⟩ := h.carve hpos hle hmax
    rw [ho, hs]
    have hstop := Arena.stop_next_le hle
    exact ⟨.slice _ (.inl rfl) Arena.next_behind hstop rfl,
      .slice _ (.inr rfl) Arena.next_behind hstop rfl⟩
  · rw [h.carve_overflow (Nat.lt_of_not_le hmax)]
    exact ⟨.failure rfl, .failure rfl⟩

lemma delivery_allocate (n : Nat) :
    Delivery arena (arena.allocate n).state (arena.allocate n).outcome ∧
      (arena.allocate n).state.slabCapacity = arena.slabCapacity ∧
      (arena.allocate n).state.Sound := by
  by_cases hn : 0 < n ∧ n ≤ arena.slabCapacity
  · rw [Arena.allocate_of_le hn.1 hn.2]
    exact ⟨(delivery_carve h hn.1 hn.2).1, Arena.slabCapacity_carve, h.state_carve hn.1 hn.2⟩
  · obtain ⟨⟨reason, ho⟩, hs⟩ := Arena.allocate_of_not hn
    rw [ho, hs]
    exact ⟨.failure rfl, rfl, h⟩

end Arena

lemma delivery_buffer {pool : Pool} (h : pool.Sound) (order : ByteOrder) (n : Nat) :
    Delivery (pool.arenas.get order) ((pool.buffer order n).state.arenas.get order)
        (pool.buffer order n).outcome ∧
      ((pool.buffer order n).state.arenas.get order).slabCapacity =
        (pool.arenas.get order).slabCapacity ∧
      ∀ o, o ≠ order → (pool.buffer order n).state.arenas.get o = pool.arenas.get o := by
  obtain rfl | hpos := Nat.eq_zero_or_pos n
  · rw [Pool.buffer_zero]
    exact ⟨.own rfl rfl rfl, rfl, fun _ _ => rfl⟩
  obtain hlt | hge := Nat.lt_or_ge n pool.slabCapacity
  · rw [Pool.buffer_of_lt_slabCapacity order hpos hlt]
    have hle : n ≤ (pool.arenas.get order).slabCapacity := by
      rw [h.slabCapacity_eq]
      exact hlt.le
    have hstate : (pool.carved order n).state.arenas.get order =
        ((pool.arenas.get order).carve n).state := PerOrder.get_set_self _ _ _
    rw [hstate]
    exact ⟨(delivery_carve (h.arena order) hpos hle).2, Arena.slabCapacity_carve,
      fun o ho => PerOrder.get_set_of_ne _ ho _⟩
  · obtain ⟨hstate, hout⟩ := Pool.dedicated_spec pool order n
    rw [Pool.buffer_of_slabCapacity_le order hpos hge, hstate, hout]
    refine ⟨?_, rfl, fun _ _ => rfl⟩
    split
    · exact .failure rfl
    · exact .own rfl rfl rfl

namespace World

lemma mark_update (arenas : Owner → Option Arena) (owner : Owner) (arena : Arena) :
    mark (Function.update arenas owner (some arena)) =
      Function.update (mark arenas) owner arena.mark := by
  funext o
  by_cases ho : o = owner
  · subst ho
    simp [mark]
  · simp [mark, ho]

lemma capacity_update {arenas : Owner → Option Arena} {owner : Owner} {arena arena' : Arena}
    (ha : arenas owner = some arena) (hcap : arena'.slabCapacity = arena.slabCapacity) :
    capacity (Function.update arenas owner (some arena')) = capacity arenas := by
  funext o
  by_cases ho : o = owner
  · subst ho
    simp [capacity, ha, hcap]
  · simp [capacity, ho]

lemma arena?_set_arena {arenas : List Arena} {i : Nat} {arena : Arena}
    (hi : arenas[i]? = some arena) (pools : List Pool) (arena' : Arena) :
    arena? (arenas.set i arena') pools =
      Function.update (arena? arenas pools) (.arena i) (some arena') := by
  obtain ⟨hlt, -⟩ := List.getElem?_eq_some_iff.mp hi
  funext owner
  cases owner with
  | arena j =>
    by_cases hj : j = i
    · subst hj
      simp [arena?, hlt]
    · simp [arena?, hj, List.getElem?_set_ne (Ne.symm hj)]
  | pool j order => simp [arena?]

lemma arena?_set_pool {pools : List Pool} {i : Nat} {pool pool' : Pool} (hi : pools[i]? = some pool)
    (arenas : List Arena) {order : ByteOrder}
    (hother : ∀ o, o ≠ order → pool'.arenas.get o = pool.arenas.get o) :
    arena? arenas (pools.set i pool') =
      Function.update (arena? arenas pools) (.pool i order) (some (pool'.arenas.get order)) := by
  obtain ⟨hlt, -⟩ := List.getElem?_eq_some_iff.mp hi
  funext owner
  cases owner with
  | arena j => simp [arena?]
  | pool j o =>
    by_cases hj : j = i
    · subst hj
      by_cases ho : o = order
      · subst ho
        simp [arena?, hlt]
      · have hne : Owner.pool j o ≠ .pool j order := fun he => ho (Owner.pool.inj he).2
        rw [Function.update_of_ne hne]
        simp only [arena?, List.getElem?_set_self hlt, hi, Option.map_some, hother o ho]
    · simp [arena?, hj, List.getElem?_set_ne (Ne.symm hj)]

/-! ### One more buffer -/

section Deliver
variable {arenas : Owner → Option Arena} {w : World Memory Holding}
  (h : Isolated (mark arenas) (capacity arenas) w.memory w.entries) {owner : Owner}
  {arena arena' : Arena} (ha : arenas owner = some arena)
include h ha

/-- A buffer that is delivered is seen as it is, though only its place is kept of a slice. -/
lemma view_hold {b : Buffer} (hd : Delivery arena arena' (.ok b)) :
    (Holding.hold owner b).view w.memory = b ∧ (Holding.hold owner b).Fits w.memory := by
  cases hd with
  | slice s hb hbehind hstop hmark =>
    have hbehind' : s.Behind (mark arenas owner) := by simpa [mark, ha] using hbehind
    have hcap : capacity arenas owner = arena.slabCapacity := by simp [capacity, ha]
    have hclean := h.clean owner s hbehind' (hcap ▸ hstop)
    have hlength : s.stop ≤ (w.memory owner s.slab).length := by
      rw [h.length_eq, hcap]
      exact hstop
    obtain rfl | rfl := hb
    · rw [Holding.hold_blank]
      refine ⟨?_, Nat.zero_le _, le_rfl, hlength⟩
      simp [Holding.view, Holding.written, Holding.capacity, hclean, Slice.blank, Buffer.ofSlice,
        Block.zeroed]
    · rw [Holding.hold_clear_blank]
      refine ⟨?_, le_rfl, Nat.zero_le _, hlength⟩
      simp [Holding.view, Holding.written, Holding.capacity, Memory.bytesAt, Slice.blank,
        Buffer.ofSlice, Buffer.clear, Block.zeroed]
  | own hslice hreader hmark =>
    rw [Holding.hold_of_none owner hslice]
    refine ⟨?_, ?_⟩
    · obtain ⟨order, origin, isReadOnly, readerIndex, readable, capacity⟩ := b
      obtain rfl : readerIndex = 0 := hreader
      rfl
    · simp [Holding.Fits, hreader]

/-- The windows stay isolated when the arena of an owner has served a request. -/
lemma isolated_deliver {outcome : Except Failure Buffer} (hd : Delivery arena arena' outcome)
    (hcap : arena'.slabCapacity = arena.slabCapacity) :
    Isolated (mark (Function.update arenas owner (some arena')))
      (capacity (Function.update arenas owner (some arena'))) w.memory
      (w.deliver .windows owner outcome).2.entries := by
  rw [capacity_update ha hcap, mark_update]
  have hold : mark arenas owner = arena.mark := by simp [mark, ha]
  cases hd with
  | @slice b s hb hbehind hstop hmark =>
    rw [← hold] at hbehind
    obtain ⟨-, hf⟩ := view_hold h ha (.slice s hb (hold ▸ hbehind) hstop hmark)
    have hwindow : (Holding.hold owner b).window? = some (owner, s) := by
      obtain rfl | rfl := hb
      · rw [Holding.hold_blank]
        rfl
      · rw [Holding.hold_clear_blank]
        rfl
    refine h.push hf (fun o t ht => ?_) fun o t (ht : (Holding.hold owner b).window? = _) => ?_
    · by_cases ho : o = owner
      · subst ho
        rw [Function.update_self, hmark] at ht
        exact hbehind.trans_mark ht
      · rwa [Function.update_of_ne ho] at ht
    · rw [hwindow] at ht
      cases ht
      refine ⟨hbehind, fun t ht => ?_⟩
      rw [Function.update_self, hmark] at ht
      exact ht.apart
  | @own b hslice hreader hmark =>
    have hd : Delivery arena arena' (.ok b) := .own hslice hreader hmark
    obtain ⟨-, hf⟩ := view_hold h ha hd
    rw [hmark, ← hold, Function.update_eq_self]
    refine h.push hf (fun _ _ ht => ht) fun o t (ht : (Holding.hold owner b).window? = _) => ?_
    rw [Holding.hold_of_none owner hslice] at ht
    cases ht
  | failure hmark => rwa [hmark, ← hold, Function.update_eq_self]

end Deliver

/-! ### Steps -/

/-- All arenas are sound, and no two buffers share a byte. -/
structure Sound (w : World Memory Holding) : Prop where
  arenas : ∀ arena ∈ w.arenas, arena.Sound
  pools : ∀ pool ∈ w.pools, pool.Sound
  isolated : Isolated (mark (arena? w.arenas w.pools)) (capacity (arena? w.arenas w.pools)) w.memory
    w.entries

lemma sound_start {arenas : List Arena} {pools : List Pool} (ha : ∀ arena ∈ arenas, arena.Sound)
    (hp : ∀ pool ∈ pools, pool.Sound) : (start arenas pools).Sound :=
  ⟨ha, hp, .zero _ _⟩

lemma sound_deliver {w : World Memory Holding} {owner : Owner} {outcome : Except Failure Buffer}
    (ha : ∀ arena ∈ w.arenas, arena.Sound) (hp : ∀ pool ∈ w.pools, pool.Sound)
    (h : Isolated (mark (arena? w.arenas w.pools)) (capacity (arena? w.arenas w.pools)) w.memory
      (w.deliver .windows owner outcome).2.entries) :
    (w.deliver .windows owner outcome).2.Sound := by
  cases outcome <;> exact ⟨ha, hp, h⟩

/-- The machines give the same outcome and leave worlds that look the same. -/
structure Agrees (low : Outcome × World Memory Holding) (high : Outcome × World Unit Buffer) :
    Prop where
  outcome : low.1 = high.1
  values : low.2.values = high.2
  sound : low.2.Sound

variable {w : World Memory Holding}

lemma getElem?_values (j : Nat) :
    w.values.entries[j]? = w.entries[j]?.map (Option.map (Entry.map (·.view w.memory))) := by
  simp only [World.values, views, List.getElem?_map]
  rfl

lemma agrees_deliver {owner : Owner} {outcome : Except Failure Buffer}
    (hview : ∀ b, outcome = .ok b → (Holding.hold owner b).view w.memory = b)
    (hsound : (w.deliver .windows owner outcome).2.Sound) :
    Agrees (w.deliver .windows owner outcome) (w.values.deliver .values owner outcome) := by
  cases outcome with
  | error failure => exact ⟨rfl, rfl, hsound⟩
  | ok b =>
    have hb := hview b rfl
    refine ⟨congrArg Outcome.delivered hb, ?_, hsound⟩
    simp only [deliver, World.values, views, List.map_append, List.map_cons, List.map_nil,
      Option.map_some, Entry.map, Backing.windows, Backing.values, hb]

/-- A change to one buffer leaves what is seen of the others as it is. -/
lemma views_set {j : Nat} {e : Entry Holding} (h : w.Sound) (hj : w.entries[j]? = some (some e))
    {m : Memory} (hframe : ∀ owner t, (∀ s, e.buffer.window? = some (owner, s) → s.Apart t) →
      m.bytesAt owner t = w.memory.bytesAt owner t) (e' : Option (Entry Holding)) :
    (w.entries.set j e').map (Option.map (Entry.map (·.view m))) =
      w.values.entries.set j (e'.map (Entry.map (·.view m))) := by
  obtain ⟨hlt, -⟩ := List.getElem?_eq_some_iff.mp hj
  ext1 k
  rw [List.getElem?_map]
  by_cases hk : k = j
  · subst hk
    have hlt' : k < w.values.entries.length := by simpa [World.values, views] using hlt
    rw [List.getElem?_set_self hlt, List.getElem?_set_self hlt']
    rfl
  · rw [List.getElem?_set_ne (Ne.symm hk), List.getElem?_set_ne (Ne.symm hk), getElem?_values]
    cases hf : w.entries[k]? with
    | none => rfl
    | some f =>
      cases f with
      | none => rfl
      | some f =>
        have hsame := h.isolated.view_eq hj hf (Ne.symm hk) hframe
        simp only [Option.map_some, Entry.map, hsame]

section Step
variable (h : w.Sound)
include h

lemma agrees_absent : Agrees (.absent, w) (.absent, w.values) := ⟨rfl, rfl, h⟩

lemma agrees_allocate (i n : Nat) :
    Agrees (w.step .windows (.allocate i n)) (w.values.step .values (.allocate i n)) := by
  cases hi : w.arenas[i]? with
  | none =>
    have hi' : w.values.arenas[i]? = none := hi
    simp only [step, hi, hi']
    exact agrees_absent h
  | some arena =>
    have hi' : w.values.arenas[i]? = some arena := hi
    simp only [step, hi, hi']
    obtain ⟨hd, hcap, hsound⟩ := delivery_allocate (h.arenas arena (List.mem_of_getElem? hi)) n
    have ha : arena? w.arenas w.pools (.arena i) = some arena := hi
    let w' : World Memory Holding := { w with arenas := w.arenas.set i (arena.allocate n).state }
    refine agrees_deliver (w := w') (fun b hb => ?_)
      (sound_deliver (fun arena' hmem => ?_) h.pools ?_)
    · rw [hb] at hd
      exact (view_hold h.isolated ha hd).1
    · obtain hmem | rfl := List.mem_or_eq_of_mem_set hmem
      · exact h.arenas arena' hmem
      · exact hsound
    · rw [arena?_set_arena hi]
      exact isolated_deliver (w := w') h.isolated ha hd hcap

lemma agrees_request (i : Nat) (order : ByteOrder) (n : Nat) :
    Agrees (w.step .windows (.request i order n)) (w.values.step .values (.request i order n)) := by
  cases hi : w.pools[i]? with
  | none =>
    have hi' : w.values.pools[i]? = none := hi
    simp only [step, hi, hi']
    exact agrees_absent h
  | some pool =>
    have hi' : w.values.pools[i]? = some pool := hi
    simp only [step, hi, hi']
    have hpool := h.pools pool (List.mem_of_getElem? hi)
    obtain ⟨hd, hcap, hother⟩ := delivery_buffer hpool order n
    have ha : arena? w.arenas w.pools (.pool i order) = some (pool.arenas.get order) := by
      simp only [arena?, hi, Option.map_some]
    let w' : World Memory Holding := { w with pools := w.pools.set i (pool.buffer order n).state }
    refine agrees_deliver (w := w') (fun b hb => ?_)
      (sound_deliver h.arenas (fun pool' hmem => ?_) ?_)
    · rw [hb] at hd
      exact (view_hold h.isolated ha hd).1
    · obtain hmem | rfl := List.mem_or_eq_of_mem_set hmem
      · exact h.pools pool' hmem
      · exact hpool.serve (.buffer order n)
    · rw [arena?_set_pool hi w.arenas hother]
      exact isolated_deliver (w := w') h.isolated ha hd hcap

lemma agrees_perform (j : Nat) (op : Buffer.Operation) :
    Agrees (w.step .windows (.perform j op)) (w.values.step .values (.perform j op)) := by
  have hj' := getElem?_values (w := w) j
  rcases hj : w.entries[j]? with _ | _ | ⟨b, _ | _⟩ <;>
    simp only [hj, Option.map_none, Option.map_some, Entry.map] at hj' <;> simp only [step, hj, hj']
  case some.some.false =>
    have hf : b.Fits w.memory := h.isolated.fits j ⟨b, false⟩ hj
    have hview := Holding.view_perform hf op
    have hlocal := Holding.local_perform hf op
    constructor
    case outcome => exact congrArg (Outcome.performed ∘ Reply.outcome) hview
    case values =>
      have hset := views_set h hj hlocal.frame (some { buffer := (b.perform w.memory op).state.2 })
      have hstate : (b.perform w.memory op).state.2.view (b.perform w.memory op).state.1 =
          ((b.view w.memory).perform op).state := congrArg Reply.state hview
      simp only [World.values, views, Backing.windows, Backing.values]
      rw [hset, Option.map_some, Entry.map, hstate]
      rfl
    case sound =>
      refine ⟨h.arenas, h.pools, h.isolated.update hj hlocal.length_eq hlocal.frame fun f hf' => ?_⟩
      cases hf'
      exact ⟨hlocal.fits, hlocal.window⟩
  all_goals exact agrees_absent h

lemma agrees_bytes (j : Nat) :
    Agrees (w.step .windows (.bytes j)) (w.values.step .values (.bytes j)) := by
  have hj' := getElem?_values (w := w) j
  rcases hj : w.entries[j]? with _ | _ | e <;>
    simp only [hj, Option.map_none, Option.map_some, Entry.map] at hj' <;> simp only [step, hj, hj']
  case some.some => exact ⟨rfl, rfl, h⟩
  all_goals exact agrees_absent h

lemma agrees_freeze (j : Nat) :
    Agrees (w.step .windows (.freeze j)) (w.values.step .values (.freeze j)) := by
  have hj' := getElem?_values (w := w) j
  rcases hj : w.entries[j]? with _ | _ | ⟨b, _ | _⟩ <;>
    simp only [hj, Option.map_none, Option.map_some, Entry.map] at hj' <;> simp only [step, hj, hj']
  case some.some.false =>
    refine ⟨rfl, ?_, h.arenas, h.pools, ?_⟩
    · have hset := views_set h hj (fun _ _ _ => rfl) (some ⟨b, true⟩)
      simp only [World.values, views, Backing.windows]
      rw [hset]
      rfl
    · refine h.isolated.update hj (fun _ _ => rfl) (fun _ _ _ => rfl) fun f hf => ?_
      cases hf
      exact ⟨h.isolated.fits j ⟨b, false⟩ hj, fun _ hw => hw⟩
  all_goals exact agrees_absent h

lemma agrees_drop (j : Nat) :
    Agrees (w.step .windows (.drop j)) (w.values.step .values (.drop j)) := by
  have hj' := getElem?_values (w := w) j
  rcases hj : w.entries[j]? with _ | _ | e <;>
    simp only [hj, Option.map_none, Option.map_some, Entry.map] at hj' <;> simp only [step, hj, hj']
  case some.some =>
    refine ⟨rfl, ?_, h.arenas, h.pools, ?_⟩
    · have hset := views_set h hj (fun _ _ _ => rfl) none
      simp only [World.values, views, Backing.windows]
      rw [hset]
      rfl
    · exact h.isolated.update hj (fun _ _ => rfl) (fun _ _ _ => rfl) fun f hf => by cases hf
  all_goals exact agrees_absent h

/-- Each step of the machine with shared slabs is a step of the machine with own bytes. -/
lemma agrees_step (command : Command) :
    Agrees (w.step .windows command) (w.values.step .values command) := by
  cases command with
  | allocate i n => exact agrees_allocate h i n
  | request i order n => exact agrees_request h i order n
  | perform j op => exact agrees_perform h j op
  | bytes j => exact agrees_bytes h j
  | freeze j => exact agrees_freeze h j
  | drop j => exact agrees_drop h j

/-- Whole runs agree as their steps do. -/
lemma agrees_run (commands : List Command) :
    (w.run .windows commands).1 = (w.values.run .values commands).1 ∧
      (w.run .windows commands).2.values = (w.values.run .values commands).2 ∧
      (w.run .windows commands).2.Sound := by
  induction commands generalizing w with
  | nil => exact ⟨rfl, rfl, h⟩
  | cons command commands ih =>
    obtain ⟨houtcome, hvalues, hsound⟩ := agrees_step h command
    obtain ⟨houtcomes, hlast, hsound'⟩ := ih hsound
    rw [hvalues] at houtcomes hlast
    exact ⟨by simp only [run, houtcome, houtcomes], hlast, hsound'⟩

end Step

/-! ### Where every buffer has its bytes to itself -/

lemma views_values (w : World Unit Buffer) : w.views .values = w.entries := by
  have hid : Option.map (Entry.map fun b : Buffer => b) = id := by
    funext e
    cases e <;> rfl
  simp only [views, Backing.values, hid, List.map_id_fun, id]

/-- A command changes no buffer but the one it is about. -/
lemma entries_step_values (w : World Unit Buffer) {command : Command} {k : Nat} {e : Entry Buffer}
    (htarget : command.target? ≠ some k) (hk : w.entries[k]? = some (some e)) :
    (w.step .values command).2.entries[k]? = some (some e) := by
  have hdeliver (w' : World Unit Buffer) (owner : Owner) (outcome : Except Failure Buffer)
      (hw' : w'.entries = w.entries) :
      (w'.deliver .values owner outcome).2.entries[k]? = some (some e) := by
    obtain ⟨hlt, -⟩ := List.getElem?_eq_some_iff.mp hk
    cases outcome with
    | error failure => rwa [← hw'] at hk
    | ok b =>
      simp only [deliver, hw']
      rwa [List.getElem?_append_left hlt]
  have hset (j : Nat) (hj : some j ≠ some k) (e' : Option (Entry Buffer)) :
      (w.entries.set j e')[k]? = some (some e) := by
    rwa [List.getElem?_set_ne fun he => hj (congrArg some he)]
  cases command with
  | allocate i n =>
    simp only [step]
    split
    · exact hk
    · exact hdeliver _ _ _ rfl
  | request i order n =>
    simp only [step]
    split
    · exact hk
    · exact hdeliver _ _ _ rfl
  | bytes j =>
    simp only [step]
    split <;> exact hk
  | perform j op | freeze j | drop j =>
    simp only [step]
    split
    · exact hset j htarget _
    · exact hk

/-- A slice that an arena delivers is all zeros. -/
lemma readable_of_allocate {arena : Arena} {n : Nat} {b : Buffer}
    (h : (arena.allocate n).outcome = .ok b) : b.readable = List.replicate n 0 := by
  obtain ⟨s, rfl, rfl, -⟩ := Arena.exists_of_allocate h
  exact s.readable_blank arena.order

lemma readable_of_delivered {w : World Unit Buffer} {i n : Nat} {b : Buffer}
    (h : (w.step .values (.allocate i n)).1 = .delivered b) : b.readable = List.replicate n 0 := by
  simp only [step] at h
  split at h
  · cases h
  · next arena _ =>
    cases ho : (arena.allocate n).outcome with
    | error failure =>
      rw [ho] at h
      cases h
    | ok b' =>
      rw [ho] at h
      cases h
      exact readable_of_allocate ho

/-! ### Isolation of buffers -/

/-- On new arenas and pools, buffers that share slabs give the same outcomes as buffers that have
their bytes to themselves, and the same is seen of them. So no command is ever seen through a buffer
that it is not about, and a slice that an arena delivers is all zeros, whatever was written
before. -/
theorem run_windows_eq_run_values {arenas : List Arena} {pools : List Pool}
    (harenas : ∀ arena ∈ arenas, ∃ order slabCapacity, Arena.new order slabCapacity = .ok arena)
    (hpools : ∀ pool ∈ pools, ∃ order slabCapacity, Pool.new order slabCapacity = .ok pool)
    (commands : List Command) :
    ((start arenas pools).run .windows commands).1 =
        ((startValues arenas pools).run .values commands).1 ∧
      ((start arenas pools).run .windows commands).2.views .windows =
        ((startValues arenas pools).run .values commands).2.views .values ∧
      (∀ (command : Command) (k : Nat) (e : Entry Buffer), command.target? ≠ some k →
        (((start arenas pools).run .windows commands).2.views .windows)[k]? = some (some e) →
        ((((start arenas pools).run .windows commands).2.step .windows command).2.views
          .windows)[k]? = some (some e)) ∧
      ∀ (i n : Nat) (b : Buffer),
        (((start arenas pools).run .windows commands).2.step .windows (.allocate i n)).1 =
          .delivered b → b.readable = List.replicate n 0 := by
  have hsound : (start arenas pools).Sound := by
    refine sound_start (fun arena harena => ?_) fun pool hpool => ?_
    · obtain ⟨order, slabCapacity, hnew⟩ := harenas arena harena
      rw [Arena.eq_of_new hnew]
      exact Arena.sound_fresh order slabCapacity
    · obtain ⟨order, slabCapacity, hnew⟩ := hpools pool hpool
      rw [(Pool.eq_fresh_of_new hnew).1]
      exact Pool.sound_fresh_pool order slabCapacity
  have hstart : (start arenas pools).values = startValues arenas pools := rfl
  obtain ⟨houtcomes, hvalues, hlast⟩ := agrees_run hsound commands
  rw [hstart] at houtcomes hvalues
  refine ⟨houtcomes, ?_, fun command k e htarget hk => ?_, fun i n b hb => ?_⟩
  · rw [views_values, ← hvalues]
    rfl
  · have hstep := (agrees_step hlast command).values
    have hkept := entries_step_values ((start arenas pools).run .windows commands).2.values
      htarget hk
    rw [← hstep] at hkept
    exact hkept
  · rw [(agrees_step hlast (.allocate i n)).outcome] at hb
    exact readable_of_delivered hb

/-- Two slices of one slab, of which the first is written up to its end and then beyond. -/
theorem run_windows_eq_run_values_of_two :
    (∀ arena ∈ [({ order := .big, slabCapacity := 4 } : Arena)],
        ∃ order slabCapacity, Arena.new order slabCapacity = .ok arena) ∧
      (∀ pool ∈ [Pool.fresh .little 4],
        ∃ order slabCapacity, Pool.new order slabCapacity = .ok pool) ∧
      ((start [{ order := .big, slabCapacity := 4 }] [.fresh .little 4]).run .windows
        [.allocate 0 2, .perform 0 .clear, .perform 0 (.putSlice [1, 2]), .allocate 0 2,
          .perform 0 (.putSlice [3]), .bytes 1, .freeze 0]).1 =
        [.delivered (Slice.blank .big ⟨1, 0, 2⟩), .performed (.ok .nothing),
          .performed (.ok .nothing), .delivered (Slice.blank .big ⟨1, 2, 2⟩),
          .performed (.ok .nothing), .bytes [0, 0], .bytes [1, 2, 3]] := by
  have harenas : ∀ arena ∈ [({ order := .big, slabCapacity := 4 } : Arena)],
      ∃ order slabCapacity, Arena.new order slabCapacity = .ok arena := by
    intro arena h
    rw [List.mem_singleton.mp h]
    exact ⟨.big, 4, rfl⟩
  have hpools : ∀ pool ∈ [Pool.fresh .little 4],
      ∃ order slabCapacity, Pool.new order slabCapacity = .ok pool := by
    intro pool h
    rw [List.mem_singleton.mp h]
    exact ⟨.little, 4, rfl⟩
  exact ⟨harenas, hpools, (run_windows_eq_run_values harenas hpools _).1.trans (by decide)⟩

end World
end BytePool
