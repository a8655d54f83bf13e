import BytePool.Block
import BytePool.ByteOrder
import BytePool.Text.Record

/-!
# Buffers

A buffer is a queue of bytes with the indices of its two ends. What lies before the reader index is
never seen again.
-/
namespace BytePool

/-- Where the memory of a buffer came from. -/
inductive Origin where
  /-- The bytes from `offset` up to `offset + length` of a slab. -/
  | slab (id offset length : Nat)
  | dedicated
  | wrapped
  | sharedEmpty
  deriving DecidableEq, Repr

namespace Origin

def slabRange? : Origin → Option (Nat × Nat × Nat)
  | slab id offset length => some (id, offset, length)
  | _ => none

def text : Origin → String
  | slab id offset length =>
    Text.record "Slab"
      [("slab_id", toString id), ("offset", toString offset), ("len", toString length)]
  | dedicated => "Dedicated"
  | wrapped => "Wrapped"
  | sharedEmpty => "SharedEmpty"

end Origin

structure Buffer where
  order : ByteOrder
  origin : Origin
  isReadOnly : Bool := false
  readerIndex : Nat := 0
  /-- The bytes from the reader index up to the writer index. -/
  readable : List UInt8
  /-- How far the writer index may go before the buffer grows; nothing once it has grown. -/
  capacity : Option Nat
  deriving DecidableEq, Repr

namespace Buffer

def writerIndex (b : Buffer) : Nat := b.readerIndex + b.readable.length

def readableBytes (b : Buffer) : Nat := b.readable.length

def isReadable (b : Buffer) : Bool := 0 < b.readable.length

/-- How many bytes can be put before the buffer grows. -/
def writableBytes (b : Buffer) : Option Nat := b.capacity.map (· - b.writerIndex)

def isSharedEmpty (b : Buffer) : Bool := b.origin = .sharedEmpty

/-! ### Making buffers -/

/-- A slice of a slab, all of it readable. Its bytes fill its memory, so they are as many as there
is room for. -/
def ofSlice (order : ByteOrder) (id offset : Nat) (slice : Block) : Buffer where
  order
  origin := .slab id offset slice.capacity
  readable := slice.bytes
  capacity := some slice.capacity

/-- Memory of its own for exactly so many bytes. -/
def dedicated (order : ByteOrder) (capacity : Nat) : Buffer where
  order
  origin := .dedicated
  readable := []
  capacity := some capacity

/-- Takes over bytes with room for some more behind them, readable from an index on. -/
def wrapFrom (order : ByteOrder) (bytes : List UInt8) (spare readerIndex : Nat) : Buffer where
  order
  origin := .wrapped
  readerIndex
  readable := bytes.drop readerIndex
  capacity := some (bytes.length + spare)

/-- Takes over bytes, all of them readable. -/
def wrap (order : ByteOrder) (bytes : List UInt8) : Buffer := wrapFrom order bytes 0 0

/-- The one buffer that stands for all requests of no bytes. -/
def empty : Buffer where
  order := .big
  origin := .sharedEmpty
  isReadOnly := true
  readable := []
  capacity := some 0

/-- Nothing to show once the buffer has grown. -/
def text? (b : Buffer) : Option String :=
  b.capacity.map fun capacity =>
    Text.record "DirectBuf"
      [("order", b.order.label), ("origin", b.origin.text),
        ("reader_index", toString b.readerIndex), ("writer_index", toString b.writerIndex),
        ("capacity", toString capacity)]

end Buffer
end BytePool
