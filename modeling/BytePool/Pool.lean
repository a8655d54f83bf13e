import BytePool.Carving.Arena
import BytePool.PerOrder
import BytePool.Settings

/-!
# Pools

A request for no bytes gets the shared empty buffer, one for a slab or more gets memory of its own,
and all others are carved from the arena of their byte order.
-/
namespace BytePool

/-- What a pool counts beside its arenas. A request adds at most one to each number of calls, so
only the number of bytes can outgrow its 64 bits in a run that can be made; it wraps around. -/
structure Counters where
  dedicatedAllocations : Nat := 0
  dedicatedBytes : UInt64 := 0
  emptyReturns : Nat := 0
  wrappedRegions : Nat := 0
  copiedRegions : Nat := 0
  deriving DecidableEq, Repr

structure Pool where
  defaultOrder : ByteOrder
  slabCapacity : Nat
  arenas : PerOrder Arena
  counters : Counters := {}
  deriving DecidableEq, Repr

namespace Pool

/-! ### Making pools -/

/-- Two fresh arenas with slabs of one capacity. -/
def fresh (defaultOrder : ByteOrder) (slabCapacity : Nat) : Pool where
  defaultOrder
  slabCapacity
  arenas := .ofFn fun order => { order, slabCapacity }

def ofSettings (settings : Settings) : Except Error Pool :=
  settings.validate.map fun _ => fresh settings.defaultOrder settings.slabCapacity

def new (defaultOrder : ByteOrder) (slabCapacity : Nat) : Except Error Pool :=
  ofSettings { defaultOrder, slabCapacity }

/-- A pool with slabs of the standard size. -/
def ofOrder (defaultOrder : ByteOrder) : Pool := fresh defaultOrder Settings.standard.slabCapacity

def standard : Pool := ofOrder Settings.standard.defaultOrder

theorem ofSettings_eq (settings : Settings) :
    ofSettings settings =
      if settings.slabCapacity = 0 then .error .zeroSlabCapacity
      else .ok (fresh settings.defaultOrder settings.slabCapacity) := by
  unfold ofSettings Settings.validate
  split <;> rfl

/-! ### Serving requests -/

def count (pool : Pool) (f : Counters → Counters) : Pool :=
  { pool with counters := f pool.counters }

def setArena (pool : Pool) (order : ByteOrder) (arena : Arena) : Pool :=
  { pool with arenas := pool.arenas.set order arena }

/-- Delivers the shared empty buffer. -/
def empty (pool : Pool) : Reply Pool Buffer :=
  .done Buffer.empty (pool.count fun c => { c with emptyReturns := c.emptyReturns + 1 })

/-- Delivers memory of its own. The request is counted before its memory is there. -/
def dedicated (pool : Pool) (order : ByteOrder) (capacity : Nat) : Reply Pool Buffer :=
  let counted := pool.count fun c =>
    { c with
      dedicatedAllocations := c.dedicatedAllocations + 1
      dedicatedBytes := c.dedicatedBytes + UInt64.ofNat capacity }
  let reply : Reply Pool Buffer :=
    if maxAllocation < capacity then .overflow counted
    else .done (Buffer.dedicated order capacity) counted
  reply.emit (.dedicated order capacity pool.slabCapacity)

/-- Delivers a slice of a slab with nothing in it yet. -/
def carved (pool : Pool) (order : ByteOrder) (capacity : Nat) : Reply Pool Buffer :=
  (((pool.arenas.get order).carve capacity).map Buffer.clear).within (pool.setArena order)

/-- Delivers a buffer with nothing readable and room for exactly so many bytes. -/
def buffer (pool : Pool) (order : ByteOrder) (capacity : Nat) : Reply Pool Buffer :=
  if capacity = 0 then pool.empty
  else if pool.slabCapacity ≤ capacity then pool.dedicated order capacity
  else pool.carved order capacity

theorem buffer_zero (pool : Pool) (order : ByteOrder) : pool.buffer order 0 = pool.empty := rfl

theorem buffer_of_slabCapacity_le {pool : Pool} {capacity : Nat} (order : ByteOrder)
    (hpos : 0 < capacity) (h : pool.slabCapacity ≤ capacity) :
    pool.buffer order capacity = pool.dedicated order capacity := by
  rw [buffer, if_neg (by omega), if_pos h]

theorem buffer_of_lt_slabCapacity {pool : Pool} {capacity : Nat} (order : ByteOrder)
    (hpos : 0 < capacity) (h : capacity < pool.slabCapacity) :
    pool.buffer order capacity = pool.carved order capacity := by
  rw [buffer, if_neg (by omega), if_neg (by omega)]

/-! ### Statistics -/

structure Stats where
  counters : Counters
  arenas : PerOrder Arena.Snapshot
  deriving DecidableEq, Repr

def snapshot (pool : Pool) (order : ByteOrder) : Arena.Snapshot := (pool.arenas.get order).snapshot

def stats (pool : Pool) : Stats := ⟨pool.counters, .ofFn pool.snapshot⟩

end Pool

/-! ### Texts -/

def Counters.fields (c : Counters) : List (String × String) :=
  [("dedicated_allocations", toString c.dedicatedAllocations),
    ("dedicated_bytes", toString c.dedicatedBytes), ("empty_returns", toString c.emptyReturns),
    ("wrapped_regions", toString c.wrappedRegions),
    ("copied_regions", toString c.copiedRegions)]

namespace Pool

def Stats.text (s : Stats) : String :=
  Text.record "AllocatorStats"
    (s.counters.fields ++ [("arenas", (s.arenas.map Arena.Snapshot.text).text)])

def text (pool : Pool) : String :=
  Text.record "DirectBufferAllocator"
    [("default_order", pool.defaultOrder.label), ("slab_capacity", toString pool.slabCapacity),
      ("arenas", (pool.arenas.map Arena.text).text),
      ("metrics", Text.record "AllocatorMetrics" pool.counters.fields)]

end Pool
end BytePool
