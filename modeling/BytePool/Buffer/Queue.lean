import BytePool.Buffer
import BytePool.Number
import BytePool.Reply

/-!
# Putting and taking

Bytes are put at the writer index and taken at the reader index. A put beyond the capacity moves the
buffer to memory of its own, from when on its capacity is of no account. A request that is refused
leaves the buffer as it is.
-/
namespace BytePool.Buffer

/-! ### Putting -/

/-- Puts bytes at the writer index. -/
def append (b : Buffer) (bytes : List UInt8) : Buffer :=
  { b with
    readable := b.readable ++ bytes
    capacity := b.capacity.filter (b.writerIndex + bytes.length ≤ ·) }

/-- A put by the named operation. -/
def put (b : Buffer) (operation : String) (bytes : List UInt8) : Reply Buffer Unit :=
  if b.isReadOnly then .refuse (.readOnly operation) b else .done () (b.append bytes)

/-- Puts bytes as they are; no bytes can be put anywhere. -/
def putSlice (b : Buffer) (bytes : List UInt8) : Reply Buffer Unit :=
  if bytes.isEmpty then .done () b else b.put "put_slice" bytes

def putNumber (b : Buffer) (t : NumberType) (value : Int) : Reply Buffer Unit :=
  b.put ("put_" ++ t.name) (Number.encode b.order t value)

/-! ### Taking -/

/-- Takes the first readable bytes, or none if there are fewer. The end that was asked for is
reported as the greatest word if no word can hold it. -/
def take (b : Buffer) (length : Nat) : Reply Buffer (List UInt8) :=
  if b.readable.length < length then
    .refuse (.indexOutOfRange "reader_index" (min maxWord (b.readerIndex + length)) b.writerIndex) b
  else
    .done (b.readable.take length)
      { b with readerIndex := b.readerIndex + length, readable := b.readable.drop length }

def getNumber (b : Buffer) (t : NumberType) : Reply Buffer Int :=
  (b.take t.width).map (Number.decode b.order t)

def skip (b : Buffer) (length : Nat) : Reply Buffer Unit := (b.take length).map fun _ => ()

/-- Drops all readable bytes and moves both indices to the start. -/
def clear (b : Buffer) : Buffer := { b with readerIndex := 0, readable := [] }

/-- The bytes of a buffer that is given up. -/
def freeze (b : Buffer) : List UInt8 := b.readable

/-! ### Laws -/

@[simp] theorem readable_append (b : Buffer) (bytes : List UInt8) :
    (b.append bytes).readable = b.readable ++ bytes := rfl

@[simp] theorem writerIndex_append (b : Buffer) (bytes : List UInt8) :
    (b.append bytes).writerIndex = b.writerIndex + bytes.length := by
  simp [writerIndex, append, Nat.add_assoc]

@[simp] theorem writerIndex_clear (b : Buffer) : b.clear.writerIndex = 0 := rfl

theorem capacity_append_of_le {b : Buffer} {bytes : List UInt8} {capacity : Nat}
    (h : b.capacity = some capacity) (hle : b.writerIndex + bytes.length ≤ capacity) :
    (b.append bytes).capacity = some capacity := by
  simp [append, h, hle]

theorem put_of_writable {b : Buffer} (h : b.isReadOnly = false) (operation : String)
    (bytes : List UInt8) : b.put operation bytes = .done () (b.append bytes) := by
  simp [put, h]

theorem take_of_le {b : Buffer} {length : Nat} (h : length ≤ b.readable.length) :
    b.take length = .done (b.readable.take length)
      { b with readerIndex := b.readerIndex + length, readable := b.readable.drop length } := by
  rw [take, if_neg (Nat.not_lt.mpr h)]

/-! Byte order and origin stay what they are, and so does what can be written. -/

@[simp] theorem order_put (b : Buffer) (operation : String) (bytes : List UInt8) :
    (b.put operation bytes).state.order = b.order := by
  unfold put
  split <;> rfl

@[simp] theorem order_putSlice (b : Buffer) (bytes : List UInt8) :
    (b.putSlice bytes).state.order = b.order := by
  unfold putSlice
  split
  · rfl
  · exact order_put b _ bytes

@[simp] theorem order_take (b : Buffer) (length : Nat) :
    (b.take length).state.order = b.order := by
  unfold take
  split <;> rfl

@[simp] theorem origin_put (b : Buffer) (operation : String) (bytes : List UInt8) :
    (b.put operation bytes).state.origin = b.origin := by
  unfold put
  split <;> rfl

@[simp] theorem origin_putSlice (b : Buffer) (bytes : List UInt8) :
    (b.putSlice bytes).state.origin = b.origin := by
  unfold putSlice
  split
  · rfl
  · exact origin_put b _ bytes

@[simp] theorem isReadOnly_putSlice (b : Buffer) (bytes : List UInt8) :
    (b.putSlice bytes).state.isReadOnly = b.isReadOnly := by
  unfold putSlice put
  split
  · rfl
  · split <;> rfl

@[simp] theorem origin_take (b : Buffer) (length : Nat) :
    (b.take length).state.origin = b.origin := by
  unfold take
  split <;> rfl

end BytePool.Buffer
