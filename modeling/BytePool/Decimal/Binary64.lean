/-!
# Binary64 numbers and the decimal numerals they stand for

A finite number is a mantissa times a power of two, exact. A numeral is read as the number nearest
to it, and of two that are equally near as the one with the even mantissa.
-/
namespace BytePool.Decimal

/-- A number of the binary64 format. The mantissa of a finite number is below `2 ^ 53`, and it is
at least `2 ^ 52` unless the exponent is the least one. -/
inductive Binary64 where
  | nan
  | infinite (negative : Bool)
  | finite (negative : Bool) (mantissa : Nat) (exponent : Int)
  deriving DecidableEq, Repr

/-- The quotient, rounded to the nearest whole number and from half way to the even one. -/
def divEven (num den : Nat) : Nat :=
  let quotient := num / den
  let twice := 2 * (num % den)
  if twice < den || (twice == den && quotient % 2 == 0) then quotient else quotient + 1

/-- The number of decimal digits of a positive number. -/
def width (n : Nat) : Nat := (Nat.toDigits 10 n).length

/-- The greatest `k` with `base ^ k ≤ num / den`, if the estimate is that `k` or one more. -/
def floorPower (base num den : Nat) (estimate : Int) : Int :=
  if den * Nat.pow base estimate.toNat ≤ num * Nat.pow base (-estimate).toNat then estimate
  else estimate - 1

namespace Binary64

/-- The least mantissa that a larger exponent leaves. -/
def hiddenBit : Nat := 0x10000000000000

def leastExponent : Int := -1074

def greatestExponent : Int := 971

def zero (negative : Bool) : Binary64 := .finite negative 0 leastExponent

/-- The number nearest to `num / den`; beyond the greatest finite one it is infinite. -/
def ofRatio (negative : Bool) (num den : Nat) : Binary64 :=
  let log := floorPower 2 num den ((num.log2 : Int) - (den.log2 : Int))
  let exponent := max leastExponent (log - 52)
  let mantissa := divEven (num * Nat.pow 2 (-exponent).toNat) (den * Nat.pow 2 exponent.toNat)
  let (mantissa, exponent) :=
    if mantissa = 2 * hiddenBit then (hiddenBit, exponent + 1) else (mantissa, exponent)
  if exponent ≤ greatestExponent then .finite negative mantissa exponent else .infinite negative

/-- The number nearest to `coefficient * 10 ^ scale`. A magnitude that is out of reach by orders of
magnitude is settled before the power is formed. -/
def ofDecimal (negative : Bool) (coefficient : Nat) (scale : Int) : Binary64 :=
  if coefficient = 0 then zero negative
  else if (width coefficient : Int) + scale > 310 then .infinite negative
  else if (width coefficient : Int) + scale < -330 then zero negative
  else ofRatio negative (coefficient * Nat.pow 10 scale.toNat) (Nat.pow 10 (-scale).toNat)

example : ofDecimal false 1 (-1) = .finite false 0x1999999999999a (-56) := by decide +kernel

example : ofDecimal true 17976931348623159 292 = .infinite true := by decide +kernel

end Binary64
end BytePool.Decimal
