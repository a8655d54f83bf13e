import BytePool.Decimal.Binary64
import BytePool.Toml.Text

/-!
# Numerals

Whole numbers fit in 64 signed bits. An underscore may stand between two digits and nowhere else.
-/
namespace BytePool.Toml

/-- The digits of a numeral without its underscores. -/
def digits? (isDigit : Char → Bool) : List Char → Option (List Char)
  | [] => none
  | [c] => if isDigit c then some [c] else none
  | c :: '_' :: rest => if isDigit c then (digits? isDigit rest).map (c :: ·) else none
  | c :: rest => if isDigit c then (digits? isDigit rest).map (c :: ·) else none

/-- A decimal numeral starts with zero only if it is zero. -/
def wholeDigits? (cs : List Char) : Option (List Char) := do
  let digits ← digits? Char.isDigit cs
  if digits.length > 1 ∧ digits.head? = some '0' then none else some digits

/-- A sign and what follows it. -/
def signed : List Char → Bool × List Char
  | '-' :: rest => (true, rest)
  | '+' :: rest => (false, rest)
  | cs => (false, cs)

def negateIf (negative : Bool) (n : Nat) : Int := if negative then -n else n

def leastInteger : Int := -0x8000000000000000

def greatestInteger : Int := 0x7fffffffffffffff

def inRange (n : Int) : Option Int :=
  if leastInteger ≤ n ∧ n ≤ greatestInteger then some n else none

def decimal? (cs : List Char) : Option Int := do
  let (negative, cs) := signed cs
  let digits ← wholeDigits? cs
  inRange (negateIf negative (ofDigits 10 digits))

def isOctalDigit (c : Char) : Bool := '0' ≤ c && c ≤ '7'

def isBinaryDigit (c : Char) : Bool := c = '0' || c = '1'

def ofBase? (base : Nat) (isDigit : Char → Bool) (cs : List Char) : Option Int := do
  let digits ← digits? isDigit cs
  inRange (ofDigits base digits)

def integer? : List Char → Option Int
  | '0' :: 'x' :: cs => ofBase? 16 isHexDigit cs
  | '0' :: 'o' :: cs => ofBase? 8 isOctalDigit cs
  | '0' :: 'b' :: cs => ofBase? 2 isBinaryDigit cs
  | cs => decimal? cs

/-- The power of ten after the letter of an exponent; without the letter it is zero. -/
def exponent? : List Char → Option Int
  | [] => some 0
  | c :: cs =>
    if c = 'e' ∨ c = 'E' then do
      let (negative, cs) := signed cs
      let digits ← digits? Char.isDigit cs
      some (negateIf negative (ofDigits 10 digits))
    else none

def isDigitOrMark (c : Char) : Bool := c.isDigit || c = '_'

/-- A numeral beyond the greatest finite number is refused. One beyond the least stands for the
negative infinity. -/
def accepted : Decimal.Binary64 → Option Decimal.Binary64
  | .infinite false => none
  | number => some number

/-- A numeral with a fraction, an exponent or both, as the nearest binary64 number. -/
def fractional? (negative : Bool) (cs : List Char) : Option Decimal.Binary64 := do
  let (whole, cs) := cs.span isDigitOrMark
  let wholes ← wholeDigits? whole
  let (parts, cs) ← match cs with
    | '.' :: cs => do
      let (part, cs) := cs.span isDigitOrMark
      some (← digits? Char.isDigit part, cs)
    | 'e' :: _ | 'E' :: _ => some ([], cs)
    | _ => none
  let exponent ← exponent? cs
  accepted
    (Decimal.Binary64.ofDecimal negative (ofDigits 10 (wholes ++ parts)) (exponent - parts.length))

def float? (cs : List Char) : Option Decimal.Binary64 :=
  match signed cs with
  | (negative, ['i', 'n', 'f']) => some (.infinite negative)
  | (_, ['n', 'a', 'n']) => some .nan
  | (negative, cs) => fractional? negative cs

end BytePool.Toml
