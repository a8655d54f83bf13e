import BytePool.Buffer.Queue
import BytePool.Carving.Slab

/-!
# Arenas

An arena carves the requests of one byte order from a current slab. A request that does not fit
there gets a new slab, and the room that was left in the old one is given up.
-/
namespace BytePool

/-- The current slab of one byte order, and what was made and issued so far. A request adds at most
one slab and one slice, but any number of bytes, and only their count wraps around 64 bits. -/
structure Arena where
  order : ByteOrder
  slabCapacity : Nat
  current : Option Slab := none
  slabsAllocated : Nat := 0
  slicesIssued : Nat := 0
  bytesIssued : UInt64 := 0
  deriving DecidableEq, Repr

namespace Arena

/-- What an arena shows of itself. -/
structure Snapshot where
  order : ByteOrder
  slabCapacity : Nat
  currentSlab : Option Nat
  cursor : Nat
  slabsAllocated : Nat
  slicesIssued : Nat
  bytesIssued : UInt64
  deriving DecidableEq, Repr

def new (order : ByteOrder) (slabCapacity : Nat) : Except Error Arena :=
  if slabCapacity = 0 then .error .zeroSlabCapacity else .ok { order, slabCapacity }

def snapshot (arena : Arena) : Snapshot where
  order := arena.order
  slabCapacity := arena.slabCapacity
  currentSlab := arena.current.map Slab.id
  cursor := (arena.current.map Slab.cursor).getD 0
  slabsAllocated := arena.slabsAllocated
  slicesIssued := arena.slicesIssued
  bytesIssued := arena.bytesIssued

/-! ### Carving -/

/-- The event that a new slab sends for a request, by what it takes the place of. -/
def installEvent (arena : Arena) (slab : Slab) (request : Nat) : Event :=
  match arena.current with
  | none => .slabInstalled arena.order slab.id arena.slabCapacity
  | some old =>
    .slabRollover arena.order slab.id old.id old.cursor arena.slabCapacity request

/-- Makes a new slab the current one. The slab is counted before its memory is there. -/
def install (arena : Arena) (request : Nat) : Reply Arena Slab :=
  let counted := { arena with slabsAllocated := arena.slabsAllocated + 1 }
  match Slab.allocate counted.slabsAllocated arena.slabCapacity with
  | .error failure => ⟨.error failure, counted, []⟩
  | .ok slab =>
    (Reply.done slab { counted with current := some slab }).emit (arena.installEvent slab request)

/-- Carves a slice from a slab with room for it and counts it. -/
def issue (arena : Arena) (slab : Slab) (length : Nat) : Reply Arena Buffer :=
  let (chunk, rest) := slab.carve length
  (Reply.done (Buffer.ofSlice arena.order slab.id chunk.offset chunk.toBlock)
    { arena with
      current := some rest
      slicesIssued := arena.slicesIssued + 1
      bytesIssued := arena.bytesIssued + UInt64.ofNat length }).emit
    (.sliceCarved arena.order slab.id chunk.offset length)

/-- The current slab, if a request fits there. -/
def fitting (arena : Arena) (length : Nat) : Option Slab :=
  arena.current.filter (length ≤ ·.remaining)

/-- Serves a request of at least one byte that a whole slab has room for. -/
def carve (arena : Arena) (length : Nat) : Reply Arena Buffer :=
  match arena.fitting length with
  | some slab => arena.issue slab length
  | none => (arena.install length).bind fun arena slab => arena.issue slab length

/-- Delivers a buffer with all its bytes readable. -/
def allocate (arena : Arena) (capacity : Nat) : Reply Arena Buffer :=
  if capacity = 0 ∨ arena.slabCapacity < capacity then
    .refuse (.invalidArgument "capacity" ("arena requests must be within 1..=" ++
      toString arena.slabCapacity ++ ": " ++ toString capacity)) arena
  else arena.carve capacity

/-! ### Texts -/

def Snapshot.text (s : Snapshot) : String :=
  Text.record "ArenaSnapshot"
    [("order", s.order.label), ("slab_capacity", toString s.slabCapacity),
      ("current_slab", Text.optional (s.currentSlab.map toString)),
      ("cursor", toString s.cursor), ("slabs_allocated", toString s.slabsAllocated),
      ("slices_issued", toString s.slicesIssued), ("bytes_issued", toString s.bytesIssued)]

def text (arena : Arena) : String :=
  Text.record "SlabArena" [("snapshot", arena.snapshot.text)]

end Arena
end BytePool
