import Mathlib
import BytePool.Number

/-!
# Encodings

The bytes of a number are those of its two's-complement word, and as many bytes as a type is wide
are the encoding of exactly one number of the type. Decoding them as another type of the same width
gives the number of that type which agrees with it modulo the number of patterns of bits.
-/
namespace BytePool

namespace NumberType
variable (t : NumberType)

lemma modulus_eq : t.modulus = 2 ^ (8 * t.width) := by cases t <;> rfl

lemma modulus_pos : 0 < t.modulus := by cases t <;> decide

/-- The number of a type that agrees with a given one in all bits that the type has. -/
def wrap (n : Int) : Int := if t.isSigned then n.bmod t.modulus else n % (t.modulus : Int)

theorem wrap_modEq (n : Int) : t.wrap n ≡ n [ZMOD t.modulus] := by
  unfold wrap
  split
  · exact Int.bmod_emod
  · exact Int.mod_modEq n _

/-- The numbers of a signed type reach from minus half the modulus up to half of it. -/
lemma holds_iff_of_signed (h : t.isSigned = true) (n : Int) :
    t.Holds n ↔ -(t.modulus : Int) ≤ 2 * n ∧ 2 * n < t.modulus := by
  have heven : 2 ∣ t.modulus := by cases t <;> decide
  simp only [Holds, least, greatest, h, if_true]
  omega

lemma holds_iff_of_unsigned (h : t.isSigned = false) (n : Int) :
    t.Holds n ↔ 0 ≤ n ∧ n < t.modulus := by
  simp only [Holds, least, greatest, h, Bool.false_eq_true, if_false]
  omega

theorem holds_wrap (n : Int) : t.Holds (t.wrap n) := by
  have hpos := t.modulus_pos
  cases hs : t.isSigned with
  | true =>
    rw [t.holds_iff_of_signed hs, wrap, if_pos hs]
    have hlow := Int.le_bmod (x := n) hpos
    have hhigh := Int.bmod_lt (x := n) hpos
    omega
  | false =>
    rw [t.holds_iff_of_unsigned hs, wrap, if_neg (by simp [hs])]
    have hmod : (0 : Int) < t.modulus := by omega
    exact ⟨Int.emod_nonneg n hmod.ne', Int.emod_lt_of_pos n hmod⟩

/-- No two numbers of a type agree in all its bits. -/
theorem eq_of_modEq {m n : Int} (hm : t.Holds m) (hn : t.Holds n) (h : m ≡ n [ZMOD t.modulus]) :
    m = n := by
  have hclose : |n - m| < t.modulus := by
    rw [abs_lt]
    cases hs : t.isSigned with
    | true => rw [t.holds_iff_of_signed hs] at hm hn; omega
    | false => rw [t.holds_iff_of_unsigned hs] at hm hn; omega
  have hzero : n - m = 0 := Int.eq_zero_of_abs_lt_dvd h.dvd hclose
  omega

theorem wrap_of_holds {n : Int} (h : t.Holds n) : t.wrap n = n :=
  t.eq_of_modEq (t.holds_wrap n) h (t.wrap_modEq n)

end NumberType

namespace Number
variable (order : ByteOrder)

lemma ofLowFirst_lt (bytes : List UInt8) : ofLowFirst bytes < 256 ^ bytes.length := by
  induction bytes with
  | nil => simp [ofLowFirst]
  | cons byte bytes ih =>
    have hb := byte.toNat_lt
    rw [ofLowFirst, List.length_cons, pow_succ]
    omega

lemma getElem_lowFirst (width n i : Nat) (h : i < (lowFirst width n).length) :
    (lowFirst width n)[i] = UInt8.ofNat (n / 256 ^ i) := by
  induction width generalizing n i with
  | zero => simp at h
  | succ width ih =>
    cases i with
    | zero => simp [lowFirst]
    | succ i => simp only [lowFirst, List.getElem_cons_succ, ih, Nat.div_div_eq_div_mul, pow_succ']

/-! ### The word of a number -/

/-- The bytes of a word, the high ones first. -/
def bigEndian {width : Nat} (word : BitVec (8 * width)) : List UInt8 :=
  List.ofFn fun i : Fin width => .ofBitVec (word.extractLsb' (8 * (width - 1 - i)) 8)

theorem encode_big (t : NumberType) (value : Int) :
    encode .big t value = bigEndian (BitVec.ofInt (8 * t.width) value) := by
  apply List.ext_getElem
  · simp [bigEndian]
  intro i hi hword
  simp only [encode, arrange, List.getElem_reverse, getElem_lowFirst, length_lowFirst, bigEndian,
    List.getElem_ofFn]
  apply UInt8.toNat_inj.mp
  simp only [UInt8.toNat_ofNat', UInt8.toNat_ofBitVec, BitVec.extractLsb'_toNat, BitVec.toNat_ofInt,
    Nat.shiftRight_eq_div_pow, pow_mul, t.modulus_eq]
  norm_num

theorem encode_little (t : NumberType) (value : Int) :
    encode .little t value = (encode .big t value).reverse := by
  simp [encode, arrange]

/-! ### Back again -/

/-- Decoding reads the whole of an encoding: also as another type of the same width. -/
theorem decode_encode {t u : NumberType} (h : u.width = t.width) (value : Int) :
    decode order u (encode order t value) = u.wrap value := by
  have hm : t.modulus = u.modulus := by rw [t.modulus_eq, u.modulus_eq, h]
  have hpos : (0 : Int) < u.modulus := by have := u.modulus_pos; omega
  have hlow := Int.emod_nonneg value hpos.ne'
  have hhigh := Int.emod_lt_of_pos value hpos
  have hn : ofLowFirst (arrange order (encode order t value)) = (value % u.modulus).toNat := by
    rw [encode, arrange_arrange, ofLowFirst_lowFirst, hm]
    exact Nat.mod_eq_of_lt (by change _ < t.modulus; omega)
  simp only [decode, hn, NumberType.wrap, Int.bmod]
  cases hs : u.isSigned with
  | true =>
    have heven : 2 ∣ u.modulus := by cases u <;> decide
    simp only [true_and, if_true]
    split <;> split <;> omega
  | false =>
    simp only [Bool.false_eq_true, false_and, if_false]
    omega

section decode
variable {t : NumberType} {bytes : List UInt8} (h : bytes.length = t.width)
include h

lemma ofLowFirst_arrange_lt : ofLowFirst (arrange order bytes) < t.modulus := by
  have := ofLowFirst_lt (arrange order bytes)
  rwa [length_arrange, h] at this

variable {order}

theorem holds_decode : t.Holds (decode order t bytes) := by
  have hlt := ofLowFirst_arrange_lt order h
  cases hs : t.isSigned with
  | true =>
    rw [t.holds_iff_of_signed hs]
    simp only [decode, hs, true_and]
    split <;> omega
  | false =>
    rw [t.holds_iff_of_unsigned hs]
    simp only [decode, hs, Bool.false_eq_true, false_and, if_false]
    omega

theorem encode_decode : encode order t (decode order t bytes) = bytes := by
  have hlt := ofLowFirst_arrange_lt order h
  have hn : decode order t bytes % t.modulus = (ofLowFirst (arrange order bytes) : Int) := by
    unfold decode
    dsimp only
    split
    · rw [Int.sub_emod_right, Int.emod_eq_of_lt] <;> omega
    · rw [Int.emod_eq_of_lt] <;> omega
  have hlow := lowFirst_ofLowFirst (arrange order bytes)
  rw [length_arrange, h] at hlow
  rw [encode, hn, Int.toNat_natCast, hlow, arrange_arrange]

end decode

/-! ### Numbers with their types -/

/-- A number of a certain type. -/
structure Typed where
  type : NumberType
  value : Int
  holds : type.Holds value
  deriving DecidableEq, Repr

namespace Typed

def encode (v : Typed) : List UInt8 := Number.encode order v.type v.value

/-- The number of another type that agrees in all bits which the type has. -/
def as (v : Typed) (t : NumberType) : Typed := ⟨t, t.wrap v.value, t.holds_wrap v.value⟩

@[simp] lemma length_encode (v : Typed) : (v.encode order).length = v.type.width :=
  Number.length_encode order v.type v.value

@[simp] lemma as_type (v : Typed) : v.as v.type = v := by
  simp only [as, v.type.wrap_of_holds v.holds]

lemma decode_encode (v : Typed) {t : NumberType} (h : t.width = v.type.width) :
    decode order t (v.encode order) = (v.as t).value :=
  Number.decode_encode order h v.value

/-- Bytes of the right number are the encoding of a number of any type. -/
lemma exists_encode {t : NumberType} {bytes : List UInt8} (h : bytes.length = t.width) :
    ∃ v : Typed, v.type = t ∧ v.encode order = bytes :=
  ⟨⟨t, decode order t bytes, holds_decode h⟩, rfl, encode_decode h⟩

/-- Bytes are the encodings of numbers of any types that are as wide together. -/
lemma exists_flatMap_encode (types : List NumberType) (bytes : List UInt8)
    (h : (types.map NumberType.width).sum = bytes.length) :
    ∃ values : List Typed, values.map Typed.type = types ∧
      values.flatMap (Typed.encode order) = bytes := by
  induction types generalizing bytes with
  | nil => exact ⟨[], rfl, (List.length_eq_zero_iff.mp h.symm).symm⟩
  | cons t types ih =>
    rw [List.map_cons, List.sum_cons] at h
    have hlength : (bytes.take t.width).length = t.width := by rw [List.length_take]; omega
    obtain ⟨v, hv, hfirst⟩ := exists_encode order hlength
    obtain ⟨values, hvalues, hrest⟩ := ih (bytes.drop t.width) (by rw [List.length_drop]; omega)
    refine ⟨v :: values, by rw [List.map_cons, hv, hvalues], ?_⟩
    rw [List.flatMap_cons, hfirst, hrest, List.take_append_drop]

end Typed
end Number
end BytePool
