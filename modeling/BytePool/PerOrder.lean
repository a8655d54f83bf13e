import BytePool.ByteOrder
import BytePool.Text.Record

/-!
# One value per byte order

The two slots are independent: writing one leaves the other as it was.
-/
namespace BytePool

structure PerOrder (α : Type) where
  big : α
  little : α
  deriving DecidableEq, Repr, Inhabited

namespace PerOrder
variable {α β : Type}

def ofFn (f : ByteOrder → α) : PerOrder α := ⟨f .big, f .little⟩

/-- Makes the big-endian slot first; an effect that stops there leaves the other slot unmade. -/
def ofFnM {m : Type → Type} [Monad m] (f : ByteOrder → m α) : m (PerOrder α) := do
  let b ← f .big
  let l ← f .little
  return ⟨b, l⟩

def get (slots : PerOrder α) : ByteOrder → α
  | .big => slots.big
  | .little => slots.little

def set (slots : PerOrder α) : ByteOrder → α → PerOrder α
  | .big, value => { slots with big := value }
  | .little, value => { slots with little := value }

def modify (slots : PerOrder α) (o : ByteOrder) (f : α → α) : PerOrder α :=
  slots.set o (f (slots.get o))

def map (f : α → β) (slots : PerOrder α) : PerOrder β := ⟨f slots.big, f slots.little⟩

/-- The slots in the sequence of `ByteOrder.all`. -/
def toList (slots : PerOrder α) : List α := [slots.big, slots.little]

@[simp] theorem get_ofFn (f : ByteOrder → α) (o : ByteOrder) : (ofFn f).get o = f o := by
  cases o <;> rfl

@[simp] theorem get_set_self (slots : PerOrder α) (o : ByteOrder) (value : α) :
    (slots.set o value).get o = value := by cases o <;> rfl

theorem get_set_of_ne (slots : PerOrder α) {o p : ByteOrder} (h : p ≠ o) (value : α) :
    (slots.set o value).get p = slots.get p := by
  cases o <;> cases p <;> simp_all [get, set]

@[simp] theorem set_get_self (slots : PerOrder α) (o : ByteOrder) :
    slots.set o (slots.get o) = slots := by cases o <;> rfl

theorem set_set (slots : PerOrder α) (o : ByteOrder) (first later : α) :
    (slots.set o first).set o later = slots.set o later := by cases o <;> rfl

@[simp] theorem get_map (f : α → β) (slots : PerOrder α) (o : ByteOrder) :
    (slots.map f).get o = f (slots.get o) := by cases o <;> rfl

@[ext] theorem ext_get {s t : PerOrder α} (h : ∀ o, s.get o = t.get o) : s = t := by
  cases s; cases t
  simpa [get] using And.intro (h .big) (h .little)

def text (slots : PerOrder String) : String :=
  Text.record "ByteOrderMap" [("slots", Text.listing slots.toList)]

end PerOrder
end BytePool
