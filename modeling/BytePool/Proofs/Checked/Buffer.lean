import BytePool.Buffer.Operation
import BytePool.Carving.Slab
import BytePool.Proofs.Checked.Attempt

/-!
# Buffers as they are stored

A buffer keeps every byte that was put since it was last cleared, and two indices that move apart
from each other: the number of stored bytes, where it is written, and the reader index. What lies
before the reader index stays stored but is out of sight.
-/
namespace BytePool.Checked

structure Buffer where
  order : ByteOrder
  origin : Origin
  /-- Shared storage can only be read. -/
  isShared : Bool := false
  bytes : List UInt8
  readerIndex : Nat := 0
  /-- How many bytes can be stored before the storage moves; nothing once it has moved. -/
  capacity : Option Nat
  deriving DecidableEq, Repr

namespace Buffer

def writerIndex (b : Buffer) : Nat := b.bytes.length

def readableBytes (b : Buffer) : Except Fault Nat := sub b.writerIndex b.readerIndex

def asSlice (b : Buffer) : Except Fault (List UInt8) := suffix b.bytes b.readerIndex

def writableBytes (b : Buffer) : Except Fault (Option Nat) :=
  match b.capacity with
  | none => .ok none
  | some capacity => Except.map some (sub capacity b.writerIndex)

/-! ### Making buffers -/

def ofSlice (order : ByteOrder) (id : Nat) (chunk : Chunk) : Buffer where
  order
  origin := .slab id chunk.offset chunk.bytes.length
  bytes := chunk.bytes
  capacity := some chunk.capacity

def dedicated (order : ByteOrder) (capacity : Nat) : Buffer where
  order
  origin := .dedicated
  bytes := []
  capacity := some capacity

def wrapFrom (order : ByteOrder) (bytes : List UInt8) (spare readerIndex : Nat) :
    Except Fault Buffer := do
  ensure (readerIndex ≤ bytes.length) .assertion
  return { order, origin := .wrapped, bytes, readerIndex, capacity := some (bytes.length + spare) }

def empty : Buffer where
  order := .big
  origin := .sharedEmpty
  isShared := true
  bytes := []
  capacity := some 0

/-! ### Operations -/

/-- Shared storage stays as it is. -/
def clear (b : Buffer) : Buffer :=
  { b with readerIndex := 0, bytes := if b.isShared then b.bytes else [] }

/-- Bytes that do not fit call for more storage, and there is not always more. -/
def put (b : Buffer) (operation : String) (bytes : List UInt8) : Attempt Buffer Unit :=
  let stop := b.writerIndex + bytes.length
  if b.isShared then .ok (.refuse (.readOnly operation) b)
  else (do
    ensure (b.capacity.any (stop ≤ ·) ∨ stop ≤ maxAllocation) .outOfMemory
    return .done ()
      { b with bytes := b.bytes ++ bytes, capacity := b.capacity.filter (stop ≤ ·) } :
    Except Fault (Reply Buffer Unit))

def putSlice (b : Buffer) (bytes : List UInt8) : Attempt Buffer Unit :=
  if bytes.isEmpty then .ok (.done () b) else b.put "put_slice" bytes

/-- Reads so many bytes, or none if there are fewer. -/
def readWith (b : Buffer) (length : Nat) : Attempt Buffer (List UInt8) :=
  (do
    if (← b.readableBytes) < length then
      return .refuse (.indexOutOfRange "reader_index" (min maxWord (b.readerIndex + length))
        b.writerIndex) b
    else
      let bytes ← slice (← b.asSlice) 0 length
      let readerIndex ← add b.readerIndex length
      return .done bytes { b with readerIndex } : Except Fault (Reply Buffer (List UInt8)))

/-- Bytes are made a number or copied only if they are as many as that takes. -/
def exactly {α : Type} (length : Nat) (f : List UInt8 → α) (bytes : List UInt8) :
    Except Fault α := do
  ensure (bytes.length = length) .outOfRange
  return f bytes

def perform (b : Buffer) : BytePool.Buffer.Operation → Attempt Buffer BytePool.Buffer.Result
  | .clear => .ok (.done .nothing b.clear)
  | .putSlice bytes => (b.putSlice bytes).read fun _ => .ok .nothing
  | .putNumber type value =>
    (b.put ("put_" ++ type.name) (Number.encode b.order type value)).read fun _ => .ok .nothing
  | .getNumber type =>
    (b.readWith type.width).read
      (exactly type.width fun bytes => .number (Number.decode b.order type bytes))
  | .readInto length => (b.readWith length).read (exactly length .bytes)
  | .skip length => (b.readWith length).read fun _ => .ok .nothing

/-- The bytes of a buffer that is given up. -/
def freeze (b : Buffer) : Except Fault (List UInt8) := suffix b.bytes b.readerIndex

/-! ### What a stored buffer stands for -/

/-- The indices keep their order, and shared storage is empty. -/
structure Sound (b : Buffer) : Prop where
  readerIndex_le : b.readerIndex ≤ b.writerIndex
  writerIndex_le : b.writerIndex ≤ maxAllocation
  le_capacity : ∀ capacity, b.capacity = some capacity → b.writerIndex ≤ capacity
  shared : b.isShared = true → b.bytes = []

def view (b : Buffer) : BytePool.Buffer where
  order := b.order
  origin := b.origin
  isReadOnly := b.isShared
  readerIndex := b.readerIndex
  readable := b.bytes.drop b.readerIndex
  capacity := b.capacity

def stored : Abstraction Buffer BytePool.Buffer := ⟨view, Sound⟩

/-- Writable buffers with a certain capacity. -/
def roomFor (capacity : Nat) : Abstraction Buffer BytePool.Buffer :=
  ⟨view, fun b => b.Sound ∧ b.isShared = false ∧ b.capacity = some capacity⟩

/-- A chunk that its bytes fill becomes a buffer of all its bytes. -/
lemma roomFor_ofSlice (order : ByteOrder) (id offset : Nat) {length : Nat}
    (hmax : length ≤ maxAllocation) :
    (roomFor length).Sound (ofSlice order id ⟨.zeroed length, offset⟩) ∧
      (ofSlice order id ⟨.zeroed length, offset⟩).view =
        .ofSlice order id offset (.zeroed length) := by
  have hlength : (List.replicate length (0 : UInt8)).length = length := List.length_replicate
  refine ⟨⟨⟨Nat.zero_le _, Nat.le_trans (Nat.le_of_eq hlength) hmax, ?_, nofun⟩, rfl, rfl⟩, ?_⟩
  · rintro _ ⟨⟩
    exact Nat.le_of_eq hlength
  · simp [view, ofSlice, BytePool.Buffer.ofSlice, Block.zeroed]

lemma roomFor_dedicated (order : ByteOrder) (capacity : Nat) :
    (roomFor capacity).Sound (dedicated order capacity) :=
  ⟨⟨Nat.le_refl _, Nat.zero_le _, fun _ _ => Nat.zero_le _, nofun⟩, rfl, rfl⟩

lemma sound_empty : empty.Sound where
  readerIndex_le := Nat.le_refl _
  writerIndex_le := Nat.zero_le _
  le_capacity _ _ := Nat.zero_le _
  shared _ := rfl

lemma wrapFrom_eq (order : ByteOrder) {bytes : List UInt8} (spare : Nat) {readerIndex : Nat}
    (h : readerIndex ≤ bytes.length) (hmax : bytes.length ≤ maxAllocation) :
    ∃ b, wrapFrom order bytes spare readerIndex = .ok b ∧ b.Sound ∧
      b.view = .wrapFrom order bytes spare readerIndex := by
  rw [wrapFrom, ensure_of h]
  refine ⟨_, rfl, ⟨h, hmax, ?_, nofun⟩, rfl⟩
  rintro _ ⟨⟩
  exact Nat.le_add_right _ _

lemma length_readable (b : Buffer) : b.view.readable.length = b.writerIndex - b.readerIndex := by
  simp [view, writerIndex]

namespace Sound
variable {b : Buffer} (h : b.Sound)
include h

lemma writerIndex_view : b.view.writerIndex = b.writerIndex := by
  have := h.readerIndex_le
  simp only [BytePool.Buffer.writerIndex, view, List.length_drop, writerIndex] at this ⊢
  omega

theorem asSlice_eq : b.asSlice = .ok b.view.readable := suffix_of_le h.readerIndex_le

theorem freeze_eq : b.freeze = .ok b.view.freeze := suffix_of_le h.readerIndex_le

lemma length_freeze_le : b.view.freeze.length ≤ maxAllocation := by
  have := h.writerIndex_le
  simp only [BytePool.Buffer.freeze, view, List.length_drop, writerIndex] at this ⊢
  omega

theorem readableBytes_eq : b.readableBytes = .ok b.view.readableBytes := by
  rw [BytePool.Buffer.readableBytes, b.length_readable]
  exact sub_of_le h.readerIndex_le

theorem writableBytes_eq : b.writableBytes = .ok b.view.writableBytes := by
  unfold writableBytes BytePool.Buffer.writableBytes
  rw [h.writerIndex_view]
  split
  case h_1 hc => simp [view, hc]
  case h_2 capacity hc => simp [view, hc, sub_of_le (h.le_capacity capacity hc), Except.map]

lemma clear : b.clear.Sound where
  readerIndex_le := Nat.zero_le _
  writerIndex_le := by
    have := h.writerIndex_le
    simp only [Buffer.clear, writerIndex] at this ⊢
    split <;> simp_all
  le_capacity capacity hc := by
    have := h.le_capacity capacity hc
    simp only [Buffer.clear, writerIndex] at this ⊢
    split <;> simp_all
  shared hs := by simp [Buffer.clear, show b.isShared = true from hs, h.shared hs]

lemma view_clear : b.clear.view = b.view.clear := by
  cases hs : b.isShared <;> simp [Buffer.clear, view, BytePool.Buffer.clear, hs, h.shared]

/-- What the storage holds after a put. -/
lemma put {bytes : List UInt8} (hs : b.isShared = false)
    (hroom : b.writerIndex + bytes.length ≤ maxAllocation) :
    { b with
      bytes := b.bytes ++ bytes
      capacity := b.capacity.filter (b.writerIndex + bytes.length ≤ ·) : Buffer }.Sound where
  readerIndex_le := by
    have := h.readerIndex_le
    simp only [writerIndex, List.length_append] at this ⊢
    omega
  writerIndex_le := by simpa [writerIndex] using hroom
  le_capacity capacity hc := by
    obtain ⟨-, hle⟩ := Option.filter_eq_some_iff.mp hc
    simpa [writerIndex] using of_decide_eq_true hle
  shared hshared := by simp [hs] at hshared

lemma take {length : Nat} (hle : b.readerIndex + length ≤ b.writerIndex) :
    { b with readerIndex := b.readerIndex + length : Buffer }.Sound where
  readerIndex_le := hle
  writerIndex_le := h.writerIndex_le
  le_capacity := h.le_capacity
  shared := h.shared

end Sound

/-! ### Operations as requests -/

/-- How many bytes an operation puts. -/
def written : BytePool.Buffer.Operation → Nat
  | .putSlice bytes => bytes.length
  | .putNumber type _ => type.width
  | .clear | .getNumber _ | .readInto _ | .skip _ => 0

section Follows
variable {b : Buffer} (h : b.Sound)
include h

lemma put_follows (operation : String) {bytes : List UInt8}
    (hroom : b.writerIndex + bytes.length ≤ maxAllocation) :
    (b.put operation bytes).Follows stored .same (b.view.put operation bytes) := by
  cases hs : b.isShared with
  | true =>
    rw [put, if_pos hs, BytePool.Buffer.put, if_pos (show b.view.isReadOnly = true from hs)]
    exact .refuse h _
  | false =>
    have hview : b.view.append bytes =
        stored.view
          { b with
            bytes := b.bytes ++ bytes
            capacity := b.capacity.filter (b.writerIndex + bytes.length ≤ ·) } := by
      rw [BytePool.Buffer.append, h.writerIndex_view]
      simp [stored, view, List.drop_append_of_le_length h.readerIndex_le]
    rw [BytePool.Buffer.put_of_writable hs, hview, put, if_neg (by simp [hs]),
      ensure_of (.inr hroom)]
    exact .done (h.put hs hroom) trivial

lemma putSlice_follows {bytes : List UInt8}
    (hroom : b.writerIndex + bytes.length ≤ maxAllocation) :
    (b.putSlice bytes).Follows stored .same (b.view.putSlice bytes) := by
  unfold putSlice BytePool.Buffer.putSlice
  split
  · exact .done h trivial
  · exact put_follows h _ hroom

lemma readWith_follows (length : Nat) :
    (b.readWith length).Follows stored (.such (·.length = length)) (b.view.take length) := by
  have hindex := h.readerIndex_le
  have hmax := h.writerIndex_le
  have hlen := b.length_readable
  unfold readWith BytePool.Buffer.take
  rw [h.readableBytes_eq, h.asSlice_eq, h.writerIndex_view]
  by_cases hlt : b.view.readable.length < length
  · simp only [BytePool.Buffer.readableBytes, bind, Except.bind, hlt, if_true]
    exact .refuse h _
  · have hslice : slice b.view.readable 0 length = .ok (b.view.readable.take length) :=
      slice_of_le (Nat.zero_le _) (Nat.le_of_not_lt hlt)
    have hadd : add b.readerIndex length = .ok (b.readerIndex + length) :=
      add_of_le (by simp only [maxAllocation, maxWord] at hmax ⊢; omega)
    simp only [BytePool.Buffer.readableBytes, bind, Except.bind, hlt, if_false, hslice, hadd]
    have hview : stored.view { b with readerIndex := b.readerIndex + length } =
        { b.view with
          readerIndex := b.view.readerIndex + length
          readable := b.view.readable.drop length } := by
      simp [stored, view, List.drop_drop]
    rw [← hview]
    exact .done (h.take (by omega)) (by simp [Abstraction.such]; omega)

/-- An operation on storage does what it does on a queue, as long as there is memory for what it
puts. -/
theorem perform_follows (operation : BytePool.Buffer.Operation)
    (hroom : b.writerIndex + written operation ≤ maxAllocation) :
    (b.perform operation).Follows stored .same (b.view.perform operation) := by
  have hexactly {length : Nat} {f : List UInt8 → BytePool.Buffer.Result} (bytes : List UInt8)
      (hl : bytes.length = length) : exactly length f bytes = .ok (f bytes) := by
    rw [exactly, ensure_of hl]
    rfl
  cases operation with
  | clear =>
    rw [BytePool.Buffer.perform, ← h.view_clear]
    exact .done h.clear trivial
  | putSlice bytes => exact (putSlice_follows h hroom).read fun _ _ => ⟨_, rfl, trivial, rfl⟩
  | putNumber type value =>
    refine (put_follows h _ ?_).read fun _ _ => ⟨_, rfl, trivial, rfl⟩
    rwa [Number.length_encode]
  | getNumber type =>
    rw [BytePool.Buffer.perform, BytePool.Buffer.getNumber, Reply.map_map]
    exact (readWith_follows h type.width).read fun bytes hl =>
      ⟨_, hexactly bytes hl, trivial, rfl⟩
  | readInto length =>
    exact (readWith_follows h length).read fun bytes hl => ⟨_, hexactly bytes hl, trivial, rfl⟩
  | skip length =>
    rw [BytePool.Buffer.perform, BytePool.Buffer.skip, Reply.map_map]
    exact (readWith_follows h length).read fun _ _ => ⟨_, rfl, trivial, rfl⟩

end Follows

end Buffer
end BytePool.Checked
