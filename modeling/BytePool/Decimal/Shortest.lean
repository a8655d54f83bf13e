import BytePool.Decimal.Binary64

/-!
# The shortest decimal that reads back

Of the decimals that are nearer to a number than to its neighbours, one with the fewest digits is
taken, of those the nearest, and from half way the greater one. It is written in positions, never
with an exponent.
-/
namespace BytePool.Decimal

/-- The decimal `coefficient * 10 ^ scale`. -/
structure Numeral where
  coefficient : Nat
  scale : Int
  deriving DecidableEq, Repr

/-- A positive number between the two bounds of what is read as it, all as multiples of
`unitNum / unitDen`. -/
structure Interval where
  unitNum : Nat
  unitDen : Nat
  low : Nat
  value : Nat
  high : Nat
  /-- Whether the bounds themselves are read as the number. -/
  closed : Bool

namespace Interval

/-- The bounds lie half way to the neighbours; below a power of two the neighbour is twice as near.
A numeral half way is read as the number with the even mantissa. -/
def ofFinite (mantissa : Nat) (exponent : Int) : Interval where
  unitNum := Nat.pow 2 (exponent - 2).toNat
  unitDen := Nat.pow 2 (2 - exponent).toNat
  low := 4 * mantissa -
    (if mantissa = Binary64.hiddenBit ∧ exponent ≠ Binary64.leastExponent then 1 else 2)
  value := 4 * mantissa
  high := 4 * mantissa + 2
  closed := mantissa % 2 = 0

/-- The exponent of the power of ten at or below the number. -/
def magnitude (i : Interval) : Int :=
  let num := i.value * i.unitNum
  floorPower 10 num i.unitDen ((width num : Int) - (width i.unitDen : Int))

/-- The decimal with the given number of digits that is nearest to the number, if it is read as
the number. -/
def numeral? (i : Interval) (digits : Nat) : Option Numeral :=
  let scale := i.magnitude - digits + 1
  -- a multiple `k` of the unit against a coefficient `c`: `k * unit` against `c * grid`
  let unit := i.unitNum * Nat.pow 10 (-scale).toNat
  let grid := i.unitDen * Nat.pow 10 scale.toNat
  let below := i.value * unit / grid
  let above := below + 1
  let isBelow := if i.closed then i.low * unit ≤ below * grid else i.low * unit < below * grid
  let isAbove := if i.closed then above * grid ≤ i.high * unit else above * grid < i.high * unit
  let isNearer := i.value * unit - below * grid < above * grid - i.value * unit
  let ofCoefficient (c : Nat) : Numeral :=
    if c = Nat.pow 10 digits then ⟨1, scale + digits⟩ else ⟨c, scale⟩
  if isBelow ∧ (isNearer ∨ ¬ isAbove) then some (ofCoefficient below)
  else if isAbove then some (ofCoefficient above)
  else none

/-- Seventeen digits are always enough. -/
def shortest (i : Interval) : Numeral :=
  ((List.range 17).findSome? fun n => i.numeral? (n + 1)).getD ⟨i.value, 0⟩

end Interval

namespace Numeral

/-- All digits with a point between wholes and parts, at least one on each side. -/
def positional (n : Numeral) : String :=
  let digits := Nat.toDigits 10 n.coefficient
  if 0 ≤ n.scale then String.ofList (digits ++ List.replicate n.scale.toNat '0') ++ ".0"
  else
    let places := (-n.scale).toNat
    let padded := List.replicate (places + 1 - digits.length) '0' ++ digits
    let wholes := padded.length - places
    String.ofList (padded.take wholes) ++ "." ++ String.ofList (padded.drop wholes)

end Numeral

/-- The text of a number in messages. -/
def Binary64.text : Binary64 → String
  | .nan => "NaN"
  | .infinite negative => (if negative then "-" else "") ++ "inf"
  | .finite negative mantissa exponent =>
    (if negative then "-" else "") ++
      (if mantissa = 0 then "0.0"
       else (Interval.ofFinite mantissa exponent).shortest.positional)

end BytePool.Decimal
