import BytePool.ByteOrder

/-!
# Numbers as bytes

The fixed-width two's-complement encodings of the number types that a buffer holds, in either byte
order.
-/
namespace BytePool

inductive NumberType where
  | u8
  | u16
  | u32
  | u64
  | i16
  | i32
  | i64
  deriving DecidableEq, Repr

namespace NumberType

def all : List NumberType := [u8, u16, u32, u64, i16, i32, i64]

def name : NumberType → String
  | u8 => "u8"
  | u16 => "u16"
  | u32 => "u32"
  | u64 => "u64"
  | i16 => "i16"
  | i32 => "i32"
  | i64 => "i64"

/-- How many bytes a number takes. -/
def width : NumberType → Nat
  | u8 => 1
  | u16 | i16 => 2
  | u32 | i32 => 4
  | u64 | i64 => 8

def isSigned : NumberType → Bool
  | u8 | u16 | u32 | u64 => false
  | i16 | i32 | i64 => true

/-- How many patterns of bits a type has. -/
def modulus (t : NumberType) : Nat := Nat.pow 256 t.width

def least (t : NumberType) : Int := if t.isSigned then -(t.modulus / 2 : Nat) else 0

def greatest (t : NumberType) : Int :=
  if t.isSigned then (t.modulus / 2 : Nat) - 1 else (t.modulus : Int) - 1

/-- Whether a number is one of the type. -/
def Holds (t : NumberType) (value : Int) : Prop := t.least ≤ value ∧ value ≤ t.greatest

instance (t : NumberType) (value : Int) : Decidable (t.Holds value) :=
  inferInstanceAs (Decidable (_ ∧ _))

end NumberType

namespace Number

/-- The digits of a number to the base 256, the low ones first. -/
def lowFirst : (width : Nat) → Nat → List UInt8
  | 0, _ => []
  | width + 1, n => UInt8.ofNat n :: lowFirst width (n / 256)

def ofLowFirst : List UInt8 → Nat
  | [] => 0
  | byte :: bytes => byte.toNat + 256 * ofLowFirst bytes

@[simp] theorem length_lowFirst (width n : Nat) : (lowFirst width n).length = width := by
  induction width generalizing n with
  | zero => rfl
  | succ width ih => simp [lowFirst, ih]

theorem ofLowFirst_lowFirst (width n : Nat) :
    ofLowFirst (lowFirst width n) = n % Nat.pow 256 width := by
  induction width generalizing n with
  | zero => simp [lowFirst, ofLowFirst, Nat.mod_one]
  | succ width ih =>
    simp only [lowFirst, ofLowFirst, ih, UInt8.toNat_ofNat']
    rw [show Nat.pow 256 (width + 1) = Nat.pow 256 width * 256 from rfl,
      Nat.mul_comm (Nat.pow 256 width), Nat.mod_mul]

theorem lowFirst_ofLowFirst (bytes : List UInt8) :
    lowFirst bytes.length (ofLowFirst bytes) = bytes := by
  induction bytes with
  | nil => rfl
  | cons byte bytes ih =>
    have hb := byte.toNat_lt
    have hd : (byte.toNat + 256 * ofLowFirst bytes) / 256 = ofLowFirst bytes := by omega
    simp only [List.length_cons, lowFirst, ofLowFirst, hd, ih, List.cons.injEq, and_true]
    apply UInt8.toNat_inj.mp
    simp only [UInt8.toNat_ofNat']
    omega

/-- Bytes with the low ones first, put into the given order, and back again. -/
def arrange (order : ByteOrder) (bytes : List UInt8) : List UInt8 :=
  match order with
  | .big => bytes.reverse
  | .little => bytes

@[simp] theorem length_arrange (order : ByteOrder) (bytes : List UInt8) :
    (arrange order bytes).length = bytes.length := by cases order <;> simp [arrange]

@[simp] theorem arrange_arrange (order : ByteOrder) (bytes : List UInt8) :
    arrange order (arrange order bytes) = bytes := by cases order <;> simp [arrange]

/-- The bytes of a number. -/
def encode (order : ByteOrder) (t : NumberType) (value : Int) : List UInt8 :=
  arrange order (lowFirst t.width (value % t.modulus).toNat)

/-- The number that bytes stand for. -/
def decode (order : ByteOrder) (t : NumberType) (bytes : List UInt8) : Int :=
  let n := ofLowFirst (arrange order bytes)
  if t.isSigned ∧ t.modulus ≤ 2 * n then (n : Int) - t.modulus else n

@[simp] theorem length_encode (order : ByteOrder) (t : NumberType) (value : Int) :
    (encode order t value).length = t.width := by simp [encode]

end Number
end BytePool
