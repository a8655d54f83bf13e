import BytePool.ByteOrder
import BytePool.Text.Record

/-! The two settings of a pool. -/
namespace BytePool

structure Settings where
  /-- The order for requests that name none. -/
  defaultOrder : ByteOrder := .big
  /-- The size of a slab, and the least request that gets memory of its own. -/
  slabCapacity : Nat := 1048576
  deriving DecidableEq, Repr, Inhabited

namespace Settings

/-- The settings of a pool that is made without any. -/
def standard : Settings := {}

/-- A slab must have room for something. -/
def validate (settings : Settings) : Except Error Unit :=
  if settings.slabCapacity = 0 then .error .zeroSlabCapacity else .ok ()

theorem validate_eq_ok_iff (settings : Settings) :
    settings.validate = .ok () ↔ 0 < settings.slabCapacity := by
  unfold validate
  split <;> simp <;> omega

def text (settings : Settings) : String :=
  Text.record "DirectBufferConfig"
    [("default_order", settings.defaultOrder.label),
      ("slab_capacity", toString settings.slabCapacity)]

end Settings
end BytePool
