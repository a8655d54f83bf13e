import BytePool.Pool

/-!
# Shared pools

Whoever holds the handle of a pool sees what all others ask of it. A registry holds one pool for
each byte order.
-/
namespace BytePool

/-- Pools under handles that never change. -/
structure Heap where
  pools : List Pool := []
  deriving DecidableEq, Repr

abbrev Handle := Nat

namespace Heap

def get? (heap : Heap) (handle : Handle) : Option Pool := heap.pools[handle]?

/-- Puts the changed pool in the place of the old one. -/
def set (heap : Heap) (handle : Handle) (pool : Pool) : Heap := ⟨heap.pools.set handle pool⟩

/-- A handle for one more pool. -/
def add (heap : Heap) (pool : Pool) : Handle × Heap :=
  (heap.pools.length, ⟨heap.pools ++ [pool]⟩)

theorem get?_set_self {heap : Heap} {i : Handle} {old : Pool} (h : heap.get? i = some old)
    (pool : Pool) : (heap.set i pool).get? i = some pool := by
  obtain ⟨hlt, _⟩ := List.getElem?_eq_some_iff.mp h
  simp [get?, set, hlt]

theorem get?_set_of_ne (heap : Heap) {i j : Handle} (h : i ≠ j) (pool : Pool) :
    (heap.set i pool).get? j = heap.get? j := by
  simp [get?, set, List.getElem?_set_ne h]

end Heap

structure Registry where
  handles : PerOrder Handle
  defaultOrder : ByteOrder
  deriving DecidableEq, Repr

namespace Registry

/-- Shares the pools of the two orders. -/
def ofPools (heap : Heap) (pools : PerOrder Pool) (defaultOrder : ByteOrder) : Registry × Heap :=
  let (big, heap) := heap.add pools.big
  let (little, heap) := heap.add pools.little
  (⟨⟨big, little⟩, defaultOrder⟩, heap)

/-- Two pools, each with the order it is registered for as its default. -/
def new (heap : Heap) (slabCapacity : Nat) : Except Error (Registry × Heap) := do
  let pools ← PerOrder.ofFnM fun order => Pool.new order slabCapacity
  return ofPools heap pools .big

def ofSettings (heap : Heap) (settings : Settings) : Except Error (Registry × Heap) :=
  (new heap settings.slabCapacity).map fun (registry, heap) =>
    ({ registry with defaultOrder := settings.defaultOrder }, heap)

def standard (heap : Heap) : Registry × Heap := ofPools heap (.ofFn Pool.ofOrder) .big

/-- The pools of a new registry come last, the big-endian one first. -/
theorem ofSettings_eq (heap : Heap) (settings : Settings) :
    ofSettings heap settings =
      if settings.slabCapacity = 0 then .error .zeroSlabCapacity
      else .ok (⟨⟨heap.pools.length, heap.pools.length + 1⟩, settings.defaultOrder⟩,
        ⟨heap.pools ++
          [.fresh .big settings.slabCapacity, .fresh .little settings.slabCapacity]⟩) := by
  simp only [ofSettings, new, PerOrder.ofFnM, Pool.new, Pool.ofSettings_eq]
  split <;> simp [Except.map, bind, Except.bind, pure, Except.pure, ofPools, Heap.add]

theorem new_eq (heap : Heap) (slabCapacity : Nat) :
    new heap slabCapacity = ofSettings heap { slabCapacity } := by
  simp only [ofSettings, new, PerOrder.ofFnM, Pool.new, Pool.ofSettings_eq]
  split <;> rfl

theorem ok_standard (heap : Heap) : .ok (standard heap) = ofSettings heap .standard := rfl

def get (registry : Registry) (order : ByteOrder) : Handle := registry.handles.get order

/-- The pool of the default order. -/
def preferred (registry : Registry) : Handle := registry.get registry.defaultOrder

/-- The pool of an order that may be missing. -/
def resolve (registry : Registry) : Option ByteOrder → Except Error Handle
  | none => .error ByteOrder.unset
  | some order => .ok (registry.get order)

def slabCapacity? (registry : Registry) (heap : Heap) : Option Nat :=
  (heap.get? registry.preferred).map Pool.slabCapacity

def text? (registry : Registry) (heap : Heap) : Option String := do
  let pools ← PerOrder.ofFnM fun order => heap.get? (registry.get order)
  return Text.record "AllocatorRegistry"
    [("allocators", (pools.map Pool.text).text),
      ("default_order", registry.defaultOrder.label)]

end Registry
end BytePool
