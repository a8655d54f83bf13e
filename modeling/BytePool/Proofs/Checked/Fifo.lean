import BytePool.Proofs.Checked.Buffer
import BytePool.Proofs.Pool.Serve

/-!
# Buffers as queues of bytes

A writable buffer hands out the bytes that were put into it, each of them once and in their order.
Where its memory came from, how much of it there is and when it moved makes no difference, and the
two indices of the storage move apart without a byte being lost or seen twice.
-/
namespace BytePool

/-! ### Queues -/

/-- A queue of bytes with its history since it was last emptied. -/
structure Fifo where
  /-- What there was to begin with, and what was put since. -/
  put : List UInt8
  taken : List UInt8 := []
  waiting : List UInt8
  deriving DecidableEq, Repr

namespace Fifo

/-- A queue with some bytes waiting. -/
def ofBytes (bytes : List UInt8) : Fifo := { put := bytes, waiting := bytes }

def add (q : Fifo) (bytes : List UInt8) : Fifo :=
  { q with put := q.put ++ bytes, waiting := q.waiting ++ bytes }

/-- Takes the first bytes that wait, or none if there are fewer. -/
def take (q : Fifo) (length : Nat) (f : List UInt8 → Buffer.Result) :
    Option Buffer.Result × Fifo :=
  if length ≤ q.waiting.length then
    (some (f (q.waiting.take length)),
      { q with
        taken := q.taken ++ q.waiting.take length
        waiting := q.waiting.drop length })
  else (none, q)

/-- What comes of an operation, nothing if it fails, and the queue after it. -/
def perform (order : ByteOrder) (q : Fifo) : Buffer.Operation → Option Buffer.Result × Fifo
  | .clear => (some .nothing, ofBytes [])
  | .putSlice bytes => (some .nothing, q.add bytes)
  | .putNumber type value => (some .nothing, q.add (Number.encode order type value))
  | .getNumber type => q.take type.width fun bytes => .number (Number.decode order type bytes)
  | .readInto length => q.take length .bytes
  | .skip length => q.take length fun _ => .nothing

def performAll (order : ByteOrder) (q : Fifo) :
    List Buffer.Operation → List (Option Buffer.Result) × Fifo
  | [] => ([], q)
  | operation :: operations =>
    let (outcome, next) := q.perform order operation
    let (outcomes, last) := next.performAll order operations
    (outcome :: outcomes, last)

/-- What was put is what was taken and, after it, what waits. -/
def Balanced (q : Fifo) : Prop := q.taken ++ q.waiting = q.put

lemma Balanced.ofBytes (bytes : List UInt8) : (ofBytes bytes).Balanced := rfl

lemma Balanced.add {q : Fifo} (h : q.Balanced) (bytes : List UInt8) : (q.add bytes).Balanced := by
  unfold Balanced at h ⊢
  simp [Fifo.add, ← h]

lemma Balanced.take {q : Fifo} (h : q.Balanced) (length : Nat) (f : List UInt8 → Buffer.Result) :
    (q.take length f).2.Balanced := by
  unfold Fifo.take
  split
  · simpa [Balanced, List.append_assoc] using h
  · exact h

lemma Balanced.perform {q : Fifo} (h : q.Balanced) (order : ByteOrder)
    (operation : Buffer.Operation) : (q.perform order operation).2.Balanced := by
  cases operation with
  | clear => exact .ofBytes []
  | putSlice bytes => exact h.add bytes
  | putNumber type value => exact h.add _
  | getNumber type => exact h.take _ _
  | readInto length => exact h.take length _
  | skip length => exact h.take length _

lemma Balanced.performAll {q : Fifo} (h : q.Balanced) (order : ByteOrder)
    (operations : List Buffer.Operation) : (q.performAll order operations).2.Balanced := by
  induction operations generalizing q with
  | nil => exact h
  | cons operation operations ih => exact ih (h.perform order operation)

end Fifo

/-! ### Buffers on queues -/

namespace Buffer

/-- An outcome is a failure of the queue only by being refused. -/
def Shows (outcome : Except Failure Result) (shown : Option Result) : Prop :=
  outcome.toOption = shown ∧ outcome ≠ .error .capacityOverflow

lemma take_fifo (b : Buffer) {q : Fifo} (hq : q.waiting = b.readable) (length : Nat)
    (f : List UInt8 → Result) :
    Shows ((b.take length).map f).outcome (q.take length f).1 ∧
      (q.take length f).2.waiting = (b.take length).state.readable ∧
      (b.take length).state.isReadOnly = b.isReadOnly := by
  unfold take Fifo.take
  rw [hq]
  by_cases hlt : b.readable.length < length
  · rw [if_pos hlt, if_neg (Nat.not_le.mpr hlt)]
    exact ⟨⟨rfl, nofun⟩, hq, rfl⟩
  · rw [if_neg hlt, if_pos (Nat.le_of_not_lt hlt)]
    exact ⟨⟨rfl, nofun⟩, rfl, rfl⟩

lemma readable_putSlice {b : Buffer} (hb : b.isReadOnly = false) (bytes : List UInt8) :
    (b.putSlice bytes).state.readable = b.readable ++ bytes := by
  unfold putSlice
  split
  case isTrue h =>
    rw [List.isEmpty_iff.mp h, List.append_nil]
    rfl
  case isFalse =>
    rw [put_of_writable hb]
    rfl

/-- One operation on a writable buffer is the operation on the queue of its readable bytes. -/
lemma perform_fifo {b : Buffer} (hb : b.isReadOnly = false) {q : Fifo} (hq : q.waiting = b.readable)
    (operation : Operation) :
    Shows (b.perform operation).outcome (q.perform b.order operation).1 ∧
      (q.perform b.order operation).2.waiting = (b.perform operation).state.readable ∧
      (b.perform operation).state.isReadOnly = false := by
  cases operation with
  | clear => exact ⟨⟨rfl, by simp [perform, Reply.done]⟩, rfl, hb⟩
  | putSlice bytes =>
    have hr := readable_putSlice hb bytes
    have hw := (b.isReadOnly_putSlice bytes).trans hb
    rw [perform, putSlice_of_writable hb]
    refine ⟨⟨rfl, ?_⟩, ?_, hw⟩
    · simp [Reply.map, Reply.done, Except.map]
    · simp [Fifo.perform, Fifo.add, Reply.map, Reply.done, hr, hq]
  | putNumber type value =>
    rw [perform, putNumber, put_of_writable hb]
    refine ⟨⟨rfl, ?_⟩, ?_, hb⟩
    · simp [Reply.map, Reply.done, Except.map]
    · simp [Fifo.perform, Fifo.add, hq, Reply.map, Reply.done]
  | getNumber type =>
    obtain ⟨ho, hr, hw⟩ := b.take_fifo hq type.width fun bytes =>
      .number (Number.decode b.order type bytes)
    rw [perform, getNumber, Reply.map_map]
    exact ⟨ho, hr, hw.trans hb⟩
  | readInto length =>
    obtain ⟨ho, hr, hw⟩ := b.take_fifo hq length .bytes
    exact ⟨ho, hr, hw.trans hb⟩
  | skip length =>
    obtain ⟨ho, hr, hw⟩ := b.take_fifo hq length fun _ => .nothing
    rw [perform, skip, Reply.map_map]
    exact ⟨ho, hr, hw.trans hb⟩

lemma performAll_fifo {b : Buffer} (hb : b.isReadOnly = false) {q : Fifo}
    (hq : q.waiting = b.readable) (operations : List Operation) :
    List.Forall₂ Shows (b.performAll operations).1 (q.performAll b.order operations).1 ∧
      (q.performAll b.order operations).2.waiting = (b.performAll operations).2.readable := by
  induction operations generalizing b q with
  | nil => exact ⟨.nil, hq⟩
  | cons operation operations ih =>
    obtain ⟨hshow, hnext, hwritable⟩ := perform_fifo hb hq operation
    obtain ⟨hlater, hlast⟩ := ih hwritable hnext
    rw [order_perform] at hlater hlast
    exact ⟨.cons hshow hlater, hlast⟩

lemma map_toOption_of_shows {outcomes : List (Except Failure Result)}
    {shown : List (Option Result)} (h : List.Forall₂ Shows outcomes shown) :
    outcomes.map Except.toOption = shown := by
  induction h with
  | nil => rfl
  | cons hs _ ih => rw [List.map_cons, hs.1, ih]

/-- A put moves the writer index, and nothing else moves it on. -/
lemma writerIndex_perform_le (b : Buffer) (operation : Operation) :
    (b.perform operation).state.writerIndex ≤ b.writerIndex + Checked.Buffer.written operation := by
  have htake (length : Nat) : (b.take length).state.writerIndex ≤ b.writerIndex := by
    unfold take
    split
    · exact Nat.le_refl _
    · simp only [Reply.done, writerIndex, List.length_drop]
      omega
  have hput (op : String) (bytes : List UInt8) :
      (b.put op bytes).state.writerIndex ≤ b.writerIndex + bytes.length := by
    unfold put
    split
    · exact Nat.le_add_right _ _
    · exact Nat.le_of_eq (b.writerIndex_append bytes)
  cases operation with
  | clear => exact Nat.zero_le _
  | putSlice bytes =>
    simp only [perform, Reply.state_map, putSlice]
    split
    · exact Nat.le_add_right _ _
    · exact hput _ bytes
  | putNumber type value =>
    have := hput ("put_" ++ type.name) (Number.encode b.order type value)
    rwa [Number.length_encode] at this
  | getNumber type => exact htake _
  | readInto length => exact htake length
  | skip length => exact htake length

end Buffer

/-! ### Storage -/

namespace Checked.Buffer

def performAll (b : Buffer) :
    List BytePool.Buffer.Operation →
      Except Fault (List (Except Failure BytePool.Buffer.Result) × Buffer)
  | [] => .ok ([], b)
  | operation :: operations => do
    let reply ← b.perform operation
    let (outcomes, last) ← reply.state.performAll operations
    return (reply.outcome :: outcomes, last)

/-- A run of operations on storage is the run on the buffer that it stands for. -/
lemma performAll_follows {b : Buffer} (h : b.Sound) (operations : List BytePool.Buffer.Operation)
    (hroom : b.writerIndex + (operations.map written).sum ≤ maxAllocation) :
    ∃ last, b.performAll operations = .ok ((b.view.performAll operations).1, last) ∧ last.Sound ∧
      last.view = (b.view.performAll operations).2 := by
  induction operations generalizing b with
  | nil => exact ⟨b, rfl, h, rfl⟩
  | cons operation operations ih =>
    rw [List.map_cons, List.sum_cons] at hroom
    obtain ⟨reply, heq, hsound, -, hreply⟩ := perform_follows h operation (by omega)
    have hstate : (b.view.perform operation).state = reply.state.view := by rw [hreply]; rfl
    have houtcome : (b.view.perform operation).outcome = reply.outcome := by
      rw [hreply]
      cases ho : reply.outcome <;>
        simp [Reply.map, Reply.within, ho, Except.map, Abstraction.same, Abstraction.such]
    -- What the operation put is no longer to come, so the sum that is left still fits.
    have hle := b.view.writerIndex_perform_le operation
    rw [hstate, hsound.writerIndex_view, h.writerIndex_view] at hle
    obtain ⟨last, hlast, hs, hv⟩ := ih hsound (by omega)
    refine ⟨last, ?_, hs, ?_⟩
    · simp [performAll, BytePool.Buffer.performAll, heq, hlast, bind, Except.bind, hstate, houtcome,
        pure, Except.pure]
    · rw [hv, BytePool.Buffer.performAll, hstate]

end Checked.Buffer

/-! ### Buffers that are delivered -/

namespace Pool

/-- Of all that a pool delivers, only what was asked for with no bytes cannot be written. -/
theorem isReadOnly_serve {pool : Pool} {request : Request} {b : Buffer} (hpos : 0 < request.size)
    (h : (pool.serve request).outcome = .ok b) : b.isReadOnly = false := by
  by_cases hex : request.exceeds = true
  · obtain ⟨e, hserve⟩ := serve_of_exceeds pool request hex
    rw [hserve] at h
    cases h
  by_cases hover : request.handsOver = true
  · obtain ⟨region, spare, -, -, hserve⟩ := serve_of_handsOver pool request hover
    rw [hserve] at h
    obtain rfl := Except.ok.inj h
    rfl
  rw [serve_eq_bind pool request (by simpa using hex) (by simpa using hover)] at h
  cases ho : (pool.buffer (request.order pool.defaultOrder) request.size).outcome with
  | error failure =>
    rw [Reply.bind_of_error ho] at h
    cases h
  | ok made =>
    obtain ⟨filled, hfilled, -, -, hsame⟩ := outcome_finish request
      (pool.buffer (request.order pool.defaultOrder) request.size).state made
    rw [Reply.bind_of_ok ho, hfilled] at h
    obtain rfl := Except.ok.inj h
    exact hsame.trans (isReadOnly_of_buffer hpos ho)

end Pool

/-! ### The queue of a buffer -/

/-- All that a writable buffer can be: a slice of an arena, what a pool delivers to a request with
bytes, and wrapped memory, which may be read from any place on. -/
inductive Buffer.Obtained : Buffer → Prop
  | allocated (arena : Arena) (capacity : Nat) {b : Buffer}
      (h : (arena.allocate capacity).outcome = .ok b) : Obtained b
  | delivered (pool : Pool) (request : Pool.Request) (hpos : 0 < request.size) {b : Buffer}
      (h : (pool.serve request).outcome = .ok b) : Obtained b
  | wrapped (order : ByteOrder) (bytes : List UInt8) (spare readerIndex : Nat) :
      Obtained (.wrapFrom order bytes spare readerIndex)

/-- Operations on a buffer are those on the queue of its readable bytes. -/
structure Buffer.ServesFifo (b : Buffer) (operations : List Buffer.Operation) : Prop where
  outcomes : List.Forall₂ Shows (b.performAll operations).1
    ((Fifo.ofBytes b.readable).performAll b.order operations).1
  waiting : let q := ((Fifo.ofBytes b.readable).performAll b.order operations).2
    let last := (b.performAll operations).2
    last.readable = q.waiting ∧ last.freeze = q.waiting ∧ last.readableBytes = q.waiting.length
  history : let q := ((Fifo.ofBytes b.readable).performAll b.order operations).2
    q.taken ++ (b.performAll operations).2.readable = q.put
  /-- Only the byte order and the readable bytes make a difference. -/
  alike : ∀ c : Buffer, c.isReadOnly = false → c.order = b.order → c.readable = b.readable →
    (c.performAll operations).1.map Except.toOption =
        (b.performAll operations).1.map Except.toOption ∧
      (c.performAll operations).2.readable = (b.performAll operations).2.readable
  /-- Storage of every layout does the same, without a fault, as long as there is memory. -/
  stored : ∀ s : Checked.Buffer, s.Sound → s.view = b →
    s.writerIndex + (operations.map Checked.Buffer.written).sum ≤ maxAllocation →
    let q := ((Fifo.ofBytes b.readable).performAll b.order operations).2
    ∃ last, s.performAll operations = .ok ((b.performAll operations).1, last) ∧
      last.asSlice = .ok q.waiting ∧ last.freeze = .ok q.waiting ∧
      last.readableBytes = .ok q.waiting.length
  /-- There is such storage for every buffer that has room in memory. -/
  layout : b.writerIndex ≤ maxAllocation →
    (∀ capacity, b.capacity = some capacity → b.writerIndex ≤ capacity) →
    ∃ s : Checked.Buffer, s.Sound ∧ s.view = b

namespace Buffer

/-- Storage with something, no matter what, before the reader index. -/
lemma exists_stored {b : Buffer} (h : b.isReadOnly = false) (hroom : b.writerIndex ≤ maxAllocation)
    (hcap : ∀ capacity, b.capacity = some capacity → b.writerIndex ≤ capacity) :
    ∃ s : Checked.Buffer, s.Sound ∧ s.view = b := by
  have hlen : (List.replicate b.readerIndex 0 ++ b.readable).length = b.writerIndex := by
    simp [writerIndex]
  refine ⟨
    { order := b.order
      origin := b.origin
      bytes := List.replicate b.readerIndex 0 ++ b.readable
      readerIndex := b.readerIndex
      capacity := b.capacity }, ⟨?_, ?_, ?_, by simp⟩, ?_⟩
  · exact (Nat.le_add_right _ _).trans hlen.ge
  · exact hlen.trans_le hroom
  · exact fun capacity hc => hlen.trans_le (hcap capacity hc)
  · simp [Checked.Buffer.view, ← h]

lemma servesFifo {b : Buffer} (h : b.isReadOnly = false) (operations : List Operation) :
    b.ServesFifo operations := by
  obtain ⟨houtcomes, hwaiting⟩ := performAll_fifo (q := .ofBytes b.readable) h rfl operations
  constructor
  case outcomes => exact houtcomes
  case waiting => exact ⟨hwaiting.symm, hwaiting.symm, congrArg List.length hwaiting.symm⟩
  case history =>
    rw [← hwaiting]
    exact (Fifo.Balanced.ofBytes b.readable).performAll b.order operations
  case alike =>
    intro c hc horder hreadable
    obtain ⟨houtcomes', hwaiting'⟩ := performAll_fifo (q := .ofBytes b.readable) hc hreadable.symm
      operations
    rw [horder] at houtcomes' hwaiting'
    exact ⟨(map_toOption_of_shows houtcomes').trans (map_toOption_of_shows houtcomes).symm,
      hwaiting'.symm.trans hwaiting⟩
  case stored =>
    rintro s hs rfl hroom
    obtain ⟨last, heq, hsound, hview⟩ := Checked.Buffer.performAll_follows hs operations hroom
    refine ⟨last, heq, ?_⟩
    rw [hsound.asSlice_eq, hsound.freeze_eq, hsound.readableBytes_eq, hview, hwaiting]
    exact ⟨rfl, rfl, rfl⟩
  case layout => exact exists_stored h

lemma Obtained.isReadOnly {b : Buffer} (h : b.Obtained) : b.isReadOnly = false := by
  cases h with
  | allocated arena capacity h =>
    obtain ⟨s, rfl, -, -⟩ := Arena.exists_of_allocate h
    rfl
  | delivered pool request hpos h => exact Pool.isReadOnly_serve hpos h
  | wrapped order bytes spare readerIndex => rfl

/-- A buffer that can be written is a queue of bytes, wherever it was obtained. -/
theorem fifo_of_obtained {b : Buffer} (h : b.isReadOnly = false ∨ b.Obtained)
    (operations : List Operation) : b.ServesFifo operations :=
  servesFifo (h.elim id Obtained.isReadOnly) operations

/-- Memory that is wrapped from its second byte on: a read of more than there is leaves what was put
in front of it, and the next one gets it. -/
theorem fifo_of_obtained_of_three :
    ((wrapFrom .big [1, 2, 3] 0 1).performAll
      [.getNumber .u16, .putSlice [9, 8], .readInto 3, .readInto 1]).2.readable = [8] :=
  (fifo_of_obtained (.inr (.wrapped .big [1, 2, 3] 0 1)) _).waiting.1.trans (by decide)

end Buffer
end BytePool
