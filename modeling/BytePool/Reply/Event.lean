import BytePool.ByteOrder

/-!
# The journal of a pool

One event for each slab that is installed, each slice that is carved and each request that takes
another way.
-/
namespace BytePool

inductive Event where
  /-- The first slab of an order. -/
  | slabInstalled (order : ByteOrder) (slab capacity : Nat)
  /-- A slab takes the place of one in which the request found no room. -/
  | slabRollover (order : ByteOrder) (slab abandoned abandonedCursor capacity request : Nat)
  | sliceCarved (order : ByteOrder) (slab offset length : Nat)
  | dedicated (order : ByteOrder) (capacity slabCapacity : Nat)
  | regionWrapped (order : ByteOrder) (length position : Nat)
  | regionCopied (order : ByteOrder) (length position : Nat)
  deriving DecidableEq, Repr

namespace Event

/-- Slices and regions are common and of little note, slabs and bypasses are rare. -/
inductive Level where
  | debug
  | trace
  deriving DecidableEq, Repr

def level : Event → Level
  | slabInstalled .. | slabRollover .. | dedicated .. => .debug
  | sliceCarved .. | regionWrapped .. | regionCopied .. => .trace

def order : Event → ByteOrder
  | slabInstalled o .. | slabRollover o .. | sliceCarved o .. | dedicated o ..
  | regionWrapped o .. | regionCopied o .. => o

def message : Event → String
  | slabInstalled .. => "slab installed"
  | slabRollover .. => "slab rollover"
  | sliceCarved .. => "slice carved"
  | dedicated .. => "dedicated allocation bypasses slab"
  | regionWrapped .. => "region wrapped"
  | regionCopied .. => "region copied"

/-- The numbers of an event under their names. -/
def numbers : Event → List (String × Nat)
  | slabInstalled _ slab capacity => [("slab_id", slab), ("slab_capacity", capacity)]
  | slabRollover _ slab abandoned abandonedCursor capacity request =>
    [("slab_id", slab), ("abandoned_slab", abandoned), ("abandoned_cursor", abandonedCursor),
      ("slab_capacity", capacity), ("request", request)]
  | sliceCarved _ slab offset length => [("slab_id", slab), ("offset", offset), ("len", length)]
  | dedicated _ capacity slabCapacity =>
    [("capacity", capacity), ("slab_capacity", slabCapacity)]
  | regionWrapped _ length position | regionCopied _ length position =>
    [("len", length), ("position", position)]

end Event
end BytePool
