import BytePool.Proofs.Buffer.Growth
import BytePool.Proofs.Memory.Window
import BytePool.Proofs.Pool.Reachable
import BytePool.Proofs.Pool.Ways

/-!
# Buffers that stay where they are

Whatever is done to a buffer, its indices keep their order and stay inside its memory, and the
memory is the one it was handed out with as long as no more is written between two times that the
buffer is emptied than the memory holds. A slice that is used that way never leaves its window.
-/
namespace BytePool

/-! ### Windows -/

namespace Holding
variable {h : Holding} {m : Memory} {w : Owner × Slice}

/-- Operations one after the other, also if some are refused. -/
def performAll (h : Holding) (m : Memory) (operations : List Buffer.Operation) : Memory × Holding :=
  operations.foldl (fun state operation => (state.2.perform state.1 operation).state) (m, h)

/-- A holding leaves its window only when it must grow. -/
def Stayed (h : Holding) (w : Owner × Slice) : Prop := h.window? = some w ∨ h.capacity = none

lemma Stayed.of_place {h' : Holding} (hs : h.Stayed w) (hplace : h'.place = h.place) :
    h'.Stayed w := by
  unfold Stayed window? capacity at *
  rwa [hplace]

lemma Stayed.append (hs : h.Stayed w) (bytes : List UInt8) : (h.append m bytes).2.Stayed w := by
  unfold Stayed window? capacity Holding.append at *
  cases hp : h.place with
  | window owner s writerIndex =>
    by_cases hroom : writerIndex + bytes.length ≤ s.length
    · simpa [hp, hroom] using hs
    · simp [hroom]
  | own held capacity =>
    obtain rfl : capacity = none := by simpa [hp] using hs
    simp

lemma Stayed.clear (hs : h.Stayed w) : h.clear.Stayed w := by
  unfold Stayed window? capacity Holding.clear at *
  cases hp : h.place <;> simpa [hp] using hs

lemma Stayed.perform (hs : h.Stayed w) (operation : Buffer.Operation) :
    (h.perform m operation).state.2.Stayed w := by
  have hput (name : String) (bytes : List UInt8) :
      (h.put m name bytes).state.2.Stayed w := by
    unfold put
    split
    · exact hs
    · exact hs.append bytes
  have htake (length : Nat) : (h.take m length).state.2.Stayed w := by
    simp only [take]
    split
    · exact hs
    · exact hs.of_place rfl
  cases operation with
  | clear => exact hs.clear
  | putSlice bytes =>
    simp only [Holding.perform, putSlice, Reply.state_map]
    split
    · exact hs
    · exact hput _ bytes
  | putNumber type value => exact hput _ _
  | getNumber type => exact htake _
  | readInto length | skip length => exact htake length

lemma Local.trans {after last : Memory × Holding} (hfirst : h.Local m after)
    (hnext : after.2.Local after.1 last) : h.Local m last where
  fits := hnext.fits
  window w hw := hfirst.window w (hnext.window w hw)
  length_eq owner slab := (hnext.length_eq owner slab).trans (hfirst.length_eq owner slab)
  frame owner t happ :=
    (hnext.frame owner t fun s hs => happ s (hfirst.window (owner, s) hs)).trans
      (hfirst.frame owner t happ)

/-- Operations write nowhere but in the window and do what they do on the buffer that the holder
sees, and a holding that has left its window has grown. -/
theorem performAll_spec (hf : h.Fits m) (hw : h.Stayed w) (operations : List Buffer.Operation) :
    let last := h.performAll m operations
    h.Local m last ∧ last.2.view last.1 = ((h.view m).performAll operations).2 ∧
      last.2.Stayed w := by
  induction operations generalizing h m with
  | nil => exact ⟨local_self hf (readerIndex_le hf), rfl, hw⟩
  | cons operation operations ih =>
    have hlocal := local_perform hf operation
    obtain ⟨hlater, hview, hstayed⟩ := ih hlocal.fits (hw.perform operation)
    refine ⟨hlocal.trans hlater, hview.trans ?_, hstayed⟩
    rw [Buffer.performAll, ← view_perform hf operation]
    rfl

/-- There are arrays of slabs in which a slice can hold what a buffer holds. -/
lemma exists_memory (owner : Owner) {b : Buffer} {s : Slice} (hs : b.origin.slice? = some s)
    (hc : b.capacity = some s.length) (hle : b.writerIndex ≤ s.length) :
    ∃ m : Memory, (hold owner b).Fits m ∧ (hold owner b).view m = b := by
  let stored := List.replicate b.readerIndex 0 ++ b.readable
  have hlen : stored.length = b.writerIndex := by simp [stored, Buffer.writerIndex]
  have hold_eq : hold owner b =
      { order := b.order
        origin := b.origin
        isReadOnly := b.isReadOnly
        readerIndex := b.readerIndex
        place := .window owner s b.writerIndex } := by
    simp [hold, hs]
  refine ⟨fun _ _ => List.replicate s.offset 0 ++ (stored ++ List.replicate s.length 0), ?_, ?_⟩
  · rw [hold_eq]
    refine ⟨Nat.le_add_right _ _, hle, ?_⟩
    simp only [Slice.stop, List.length_append, List.length_replicate]
    omega
  · obtain ⟨order, origin, isReadOnly, readerIndex, readable, capacity⟩ := b
    obtain rfl : capacity = some s.length := hc
    simp only [hold_eq, view, written, Memory.bytesAt, Holding.capacity, Buffer.mk.injEq, true_and,
      and_true]
    rw [List.drop_left' (by simp), ← hlen, List.take_left' rfl]
    simp [stored]

end Holding

namespace Buffer

/-! ### Buffers that are handed out -/

/-- All ways to get a buffer: from an arena on its own, from a pool, by wrapping memory with room
for some bytes behind those that are there, and the buffer that all requests of no bytes share. -/
inductive Handed : Buffer → Prop
  | allocated (arena : Arena) (capacity : Nat) {b : Buffer}
      (h : (arena.allocate capacity).outcome = .ok b) : Handed b
  | served (pool : Pool) (request : Pool.Request) {b : Buffer}
      (hregion : ∀ region, request = .adoptRegion region → region.Reachable)
      (h : (pool.serve request).outcome = .ok b) : Handed b
  | wrapped (order : ByteOrder) (bytes : List UInt8) (spare : Nat) :
      Handed (.wrapFrom order bytes spare 0)
  | empty : Handed .empty

/-- A buffer that lies in memory of a certain size and has not grown yet. -/
structure Lodged (b : Buffer) (capacity : Nat) : Prop where
  sound : Sized.Sound ⟨b, capacity⟩
  capacity_eq : b.capacity = some capacity
  length_eq : ∀ s, b.origin.slice? = some s → s.length = capacity

namespace Lodged
variable {b : Buffer} {capacity : Nat}

lemma of_writable (hb : b.isReadOnly = false) (hc : b.capacity = some capacity)
    (hle : b.writerIndex ≤ capacity) (hs : ∀ s, b.origin.slice? = some s → s.length = capacity) :
    b.Lodged capacity where
  sound :=
    { writerIndex_le := hle
      capacity_eq := fun _ hc' => Option.some.inj (hc'.symm.trans hc)
      readOnly := fun hb' => nomatch hb.symm.trans hb' }
  capacity_eq := hc
  length_eq := hs

lemma append (h : b.Lodged capacity) (hb : b.isReadOnly = false) {bytes : List UInt8}
    (hle : b.writerIndex + bytes.length ≤ capacity) : (b.append bytes).Lodged capacity :=
  of_writable hb (capacity_append_of_le h.capacity_eq hle)
    ((b.writerIndex_append bytes).trans_le hle) h.length_eq

lemma empty : Buffer.empty.Lodged 0 where
  sound := ⟨le_rfl, fun _ hc => (Option.some.inj hc).symm, fun _ => rfl⟩
  capacity_eq := rfl
  length_eq := nofun

lemma dedicated (order : ByteOrder) (capacity : Nat) :
    (Buffer.dedicated order capacity).Lodged capacity :=
  of_writable rfl rfl (Nat.zero_le _) nofun

lemma wrapFrom (order : ByteOrder) {bytes : List UInt8} (spare : Nat) {readerIndex : Nat}
    (h : readerIndex ≤ bytes.length) :
    (Buffer.wrapFrom order bytes spare readerIndex).Lodged (bytes.length + spare) := by
  refine of_writable rfl rfl ?_ nofun
  simp only [writerIndex, Buffer.wrapFrom, List.length_drop]
  omega

lemma blank (order : ByteOrder) (s : Slice) : (s.blank order).Lodged s.length := by
  refine of_writable rfl ?_ ?_ fun t ht => ?_
  · exact s.capacity_blank order
  · exact (s.writerIndex_blank order).le
  · rw [Slice.slice?_origin_blank] at ht
    rw [Option.some.inj ht]

lemma clear (h : b.Lodged capacity) (hb : b.isReadOnly = false) : b.clear.Lodged capacity :=
  of_writable hb h.capacity_eq (Nat.zero_le _) h.length_eq

/-- What was made for a request still has its size once the request is served. -/
lemma finish {request : Pool.Request} (h : b.Lodged request.size) (hb : b.isReadOnly = false)
    (hw : b.writerIndex = 0) (hover : request.handsOver = false) (pool : Pool) {filled : Buffer}
    (ho : (request.finish pool b).outcome = .ok filled) : filled.Lodged request.size := by
  have hroom : b.append [] = b := append_nil_of_le h.capacity_eq (hw.trans_le (Nat.zero_le _))
  rw [(request.finish_eq hover pool hb hroom).1] at ho
  obtain rfl := Except.ok.inj ho
  refine h.append hb ?_
  rw [hw, Nat.zero_add]
  exact request.length_content_le

/-- There is storage for every buffer that has room in memory. -/
lemma exists_stored (h : b.Lodged capacity) (hmax : b.writerIndex ≤ maxAllocation) :
    ∃ s : Checked.Buffer, s.Sound ∧ s.view = b := by
  cases hb : b.isReadOnly with
  | false => exact Buffer.exists_stored hb hmax h.sound.le_capacity
  | true =>
    obtain ⟨hreader, hnil⟩ := nil_of_writerIndex (h.sound.writerIndex_of_readOnly hb)
    refine ⟨{ order := b.order, origin := b.origin, isShared := true, bytes := [], capacity },
      ⟨le_rfl, Nat.zero_le _, fun _ _ => Nat.zero_le _, fun _ => rfl⟩, ?_⟩
    have hshown := h.capacity_eq
    obtain ⟨order, origin, isReadOnly, readerIndex, readable, shown⟩ := b
    subst hb hreader hnil hshown
    rfl

end Lodged

lemma lodged_of_serve {pool : Pool} {request : Pool.Request} {b : Buffer}
    (hregion : ∀ region, request = .adoptRegion region → region.Reachable)
    (h : (pool.serve request).outcome = .ok b) : ∃ capacity, b.Lodged capacity := by
  by_cases hex : request.exceeds = true
  · obtain ⟨e, hserve⟩ := pool.serve_of_exceeds request hex
    rw [hserve] at h
    cases h
  by_cases hover : request.handsOver = true
  · obtain ⟨region, spare, hreq, -, hserve⟩ := pool.serve_of_handsOver request hover
    rw [hserve] at h
    obtain rfl := Except.ok.inj h
    exact ⟨_, .wrapFrom region.order spare (hregion region hreq).placed.position_le⟩
  rw [Bool.not_eq_true] at hex hover
  rw [pool.serve_eq_bind request hex hover] at h
  obtain ⟨hzero, ho⟩ | ⟨-, -, ho⟩ | ⟨-, -, s, ho, hs⟩ | ho :=
    pool.buffer_outcome (request.order pool.defaultOrder) request.size
  · rw [Reply.bind_of_ok ho] at h
    rw [show b = .empty from
      Except.ok.inj (h.symm.trans (request.finish_of_size_eq_zero hzero _ _).1)]
    exact ⟨0, .empty⟩
  · rw [Reply.bind_of_ok ho] at h
    exact ⟨_, (Lodged.dedicated _ _).finish rfl rfl hover _ h⟩
  · rw [Reply.bind_of_ok ho] at h
    have hblank := (Lodged.blank (pool.arenas.get (request.order pool.defaultOrder)).order s).clear
      rfl
    exact ⟨_, (hs ▸ hblank).finish rfl rfl hover _ h⟩
  · rw [Reply.bind_of_error ho] at h
    cases h

lemma Handed.lodged {b : Buffer} (h : b.Handed) : ∃ capacity, b.Lodged capacity := by
  cases h with
  | allocated arena capacity h =>
    obtain ⟨s, rfl, -, -⟩ := Arena.exists_of_allocate h
    exact ⟨_, .blank _ s⟩
  | served pool request hregion h => exact lodged_of_serve hregion h
  | wrapped order bytes spare => exact ⟨_, .wrapFrom order spare (Nat.zero_le _)⟩
  | empty => exact ⟨0, .empty⟩

/-! ### What a buffer keeps -/

/-- What holds of a buffer after some operations, however they went, and of the one that comes
next. -/
structure Keeps (x : Sized) (steps : List (Operation × Nat)) (last : Sized) : Prop where
  buffer_eq : last.buffer = (x.buffer.performAll (steps.map Prod.fst)).2
  sound : last.Sound
  readerIndex_le : last.buffer.readerIndex ≤ last.buffer.writerIndex
  readableBytes_eq :
    last.buffer.readableBytes = last.buffer.writerIndex - last.buffer.readerIndex
  writableBytes_eq : ∀ capacity, last.buffer.capacity = some capacity →
    last.buffer.writableBytes = some last.writableBytes
  order_eq : last.buffer.order = x.buffer.order
  origin_eq : last.buffer.origin = x.buffer.origin
  advances : ∀ operation spare, last.Advances operation (last.perform operation spare)
  capacity_iff : last.capacity = x.capacity ↔ x.Stays steps
  /-- What the buffer shows as its capacity is the size of the first memory, as long as it is
  there. -/
  shown_iff : last.buffer.capacity = some x.capacity ↔ x.Stays steps
  /-- A buffer grows only by what was written since it was emptied. -/
  stays_iff : x.Stays steps ↔ x.buffer.isReadOnly = true ∨
    ∀ first, first <+: steps → Sized.load x.buffer.writerIndex (first.map Prod.fst) ≤ x.capacity
  /-- Storage of every layout does the same, without a fault, as long as there is memory. -/
  stored : ∀ b : Checked.Buffer, b.Sound → b.view = x.buffer →
    b.writerIndex + ((steps.map Prod.fst).map Checked.Buffer.written).sum ≤ maxAllocation →
    ∃ c, b.performAll (steps.map Prod.fst) =
        .ok ((x.buffer.performAll (steps.map Prod.fst)).1, c) ∧
      c.view = last.buffer ∧ c.readerIndex ≤ c.writerIndex ∧
      c.readableBytes = .ok (c.writerIndex - c.readerIndex) ∧
      c.writableBytes = .ok (c.capacity.map (· - c.writerIndex))
  /-- Slabs are written inside the slice alone, and the slice is left only to grow. -/
  window : ∀ (owner : Owner) (s : Slice) (m : Memory), x.buffer.origin.slice? = some s →
    (Holding.hold owner x.buffer).Fits m → (Holding.hold owner x.buffer).view m = x.buffer →
    let held := (Holding.hold owner x.buffer).performAll m (steps.map Prod.fst)
    (x.Stays steps → held.2.window? = some (owner, s)) ∧ held.2.view held.1 = last.buffer ∧
      ∀ owner' t, (owner' = owner → s.Apart t) → held.1.bytesAt owner' t = m.bytesAt owner' t

lemma Sized.Sound.keeps {x : Sized} (h : x.Sound) (hc : x.buffer.capacity = some x.capacity)
    (steps : List (Operation × Nat)) : Keeps x steps (x.performAll steps) := by
  have hs := h.performAll steps
  have hbuffer := x.buffer_performAll steps
  have hshown := h.buffer_capacity_performAll hc steps
  constructor
  case buffer_eq => exact hbuffer
  case sound => exact hs
  case readerIndex_le => exact Nat.le_add_right _ _
  case readableBytes_eq => exact (Nat.add_sub_cancel_left _ _).symm
  case writableBytes_eq => exact fun _ => hs.writableBytes_eq
  case order_eq => exact x.order_performAll steps
  case origin_eq => exact x.origin_performAll steps
  case advances => exact hs.advances
  case capacity_iff => exact (h.capacity_performAll steps).2
  case shown_iff => exact hshown
  case stays_iff =>
    cases hb : x.buffer.isReadOnly with
    | true =>
      refine iff_of_true (fun first step _ => ?_) (.inl rfl)
      exact Sized.not_outgrows_of_readOnly ((x.isReadOnly_performAll first).trans hb) _
    | false => rw [h.stays_iff hb, or_iff_right Bool.false_ne_true]
  case stored =>
    intro b hb hview hroom
    obtain ⟨c, heq, hc, hlast⟩ := Checked.Buffer.performAll_follows hb _ hroom
    rw [hview, ← hbuffer] at hlast
    refine ⟨c, hview ▸ heq, hlast, hc.readerIndex_le, ?_, ?_⟩
    · rw [hc.readableBytes_eq, Buffer.readableBytes, c.length_readable]
    · rw [hc.writableBytes_eq, Buffer.writableBytes, hc.writerIndex_view]
      rfl
  case window =>
    intro owner s m hslice hfits hview held
    have hwindow : (Holding.hold owner x.buffer).window? = some (owner, s) := by
      simp [Holding.hold, Holding.window?, hslice]
    obtain ⟨hlocal, hlast, hstayed⟩ :=
      Holding.performAll_spec hfits (.inl hwindow) (steps.map Prod.fst)
    rw [hview, ← hbuffer] at hlast
    refine ⟨fun hstays => hstayed.resolve_right fun hnone => ?_, hlast, fun owner' t happ => ?_⟩
    · have hcapacity := hshown.mpr hstays
      rw [← hlast] at hcapacity
      cases hnone.symm.trans hcapacity
    · refine hlocal.frame owner' t fun s' hs' => ?_
      obtain ⟨rfl, rfl⟩ := Prod.mk.inj (Option.some.inj (hwindow.symm.trans hs'))
      exact happ rfl

/-- However a buffer was obtained, it keeps its indices in order and inside its memory, whatever is
done to it, and the memory is the first one exactly as long as there is room there for what was
written since the buffer was emptied. -/
theorem keeps_of_handed {b : Buffer} (h : b.Handed) :
    ∃ capacity, b.capacity = some capacity ∧
      (b.writerIndex ≤ maxAllocation → ∃ s : Checked.Buffer, s.Sound ∧ s.view = b) ∧
      (∀ (owner : Owner) (s : Slice), b.origin.slice? = some s → s.length = capacity ∧
        ∃ m : Memory, (Holding.hold owner b).Fits m ∧ (Holding.hold owner b).view m = b) ∧
      ∀ steps, Keeps ⟨b, capacity⟩ steps (Sized.performAll ⟨b, capacity⟩ steps) := by
  obtain ⟨capacity, hlodged⟩ := h.lodged
  refine ⟨capacity, hlodged.capacity_eq, hlodged.exists_stored, fun owner s hs => ?_,
    hlodged.sound.keeps hlodged.capacity_eq⟩
  obtain rfl := hlodged.length_eq s hs
  exact ⟨rfl, Holding.exists_memory owner hs hlodged.capacity_eq hlodged.sound.writerIndex_le⟩

/-- Of a slice of three bytes, two are written and read. Another two do not fit, since reading made
no room, but they do once the slice is emptied. -/
theorem keeps_of_handed_of_three :
    let b : Buffer := (Slice.blank .big ⟨1, 0, 3⟩).clear
    b.Handed ∧ b.capacity = some 3 ∧
      ¬Sized.Stays ⟨b, 3⟩ [(.putSlice [1, 2], 0), (.skip 2, 0), (.putSlice [3, 4], 5)] ∧
      Sized.Stays ⟨b, 3⟩
        [(.putSlice [1, 2], 0), (.skip 2, 0), (.clear, 0), (.putSlice [3, 4], 5)] := by
  intro b
  have hserved : ((Pool.fresh .big 4).serve (.buffer .big 3)).outcome = .ok b := by decide
  have hb : b.Handed := .served (.fresh .big 4) (.buffer .big 3) nofun hserved
  obtain ⟨capacity, hc, -, -, hkeeps⟩ := keeps_of_handed hb
  obtain rfl : 3 = capacity := Option.some.inj hc
  refine ⟨hb, rfl, fun hstays => ?_, ?_⟩
  · have hshown := (hkeeps _).shown_iff.mpr hstays
    revert hshown
    decide
  · exact (hkeeps _).capacity_iff.mp (by decide)

end Buffer
end BytePool
