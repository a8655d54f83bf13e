import Mathlib.Algebra.Group.Nat.Defs
import Mathlib.Data.List.Basic
import Mathlib.Data.List.TakeDrop
import Mathlib.Data.List.TakeWhile
import BytePool.Toml.Value

/-!
# Decimal numerals

A number in decimal digits is read back, as far as it fits in 64 signed bits. One that does not fit
is no value at all: it has neither the point or exponent of another number nor the dashes and
colons of a moment.
-/
namespace BytePool.Toml

/-- Decimal digits and nothing else. -/
def AllDigits (cs : List Char) : Prop := ∀ c ∈ cs, c.isDigit = true

variable {cs : List Char}

lemma allDigits_toDigits (n : Nat) : AllDigits (Nat.toDigits 10 n) := fun _ hc =>
  Nat.isDigit_of_mem_toDigits (by decide) (by decide) hc

/-! ### The number of a numeral -/

/-- No digit is one of the characters with a meaning of their own. -/
lemma ne_of_isDigit {c : Char} (hc : c.isDigit = true) (d : Char) (hd : d.isDigit = false) :
    c ≠ d := by
  rintro rfl
  exact absurd hc (by simp [hd])

lemma digits?_of_allDigits (h : AllDigits cs) (hne : cs ≠ []) :
    digits? Char.isDigit cs = some cs := by
  induction cs with
  | nil => exact absurd rfl hne
  | cons c cs ih =>
    have hc := h c List.mem_cons_self
    cases cs with
    | nil => simp [digits?, hc]
    | cons d ds =>
      have hrest : AllDigits (d :: ds) := fun e he => h e (List.mem_cons_of_mem c he)
      have hd : d ≠ '_' := ne_of_isDigit (hrest d List.mem_cons_self) _ (by decide)
      rw [digits?, if_pos hc, ih hrest (by simp)]
      · rfl
      · simp
      · simpa using hd

lemma ofDigits_eq_ofDigitChars (h : AllDigits cs) : ofDigits 10 cs = Nat.ofDigitChars 10 cs 0 := by
  refine List.foldl_ext _ _ _ fun n c hc => ?_
  rw [digitValue, if_pos (h c hc), Nat.mul_comm]

lemma ofDigits_toDigits (n : Nat) : ofDigits 10 (Nat.toDigits 10 n) = n := by
  rw [ofDigits_eq_ofDigitChars (allDigits_toDigits n)]
  exact Nat.ofDigitChars_toDigits (by decide) (by decide)

lemma head?_toDigits {n : Nat} (hn : 0 < n) : (Nat.toDigits 10 n).head? ≠ some '0' := by
  induction n using Nat.strongRecOn with
  | ind n ih =>
    by_cases hlt : n < 10
    · rw [Nat.toDigits_of_lt_base hlt]
      have hall : ∀ n ∈ List.range 10, 0 < n → [n.digitChar].head? ≠ some '0' := by decide
      exact hall n (List.mem_range.mpr hlt) hn
    · rw [Nat.toDigits_of_base_le (by decide) (by omega), List.head?_append_of_ne_nil _
        Nat.toDigits_ne_nil]
      exact ih (n / 10) (by omega) (by omega)

lemma wholeDigits?_toDigits (n : Nat) :
    wholeDigits? (Nat.toDigits 10 n) = some (Nat.toDigits 10 n) := by
  rw [wholeDigits?, digits?_of_allDigits (allDigits_toDigits n) Nat.toDigits_ne_nil]
  refine if_neg fun h => ?_
  obtain rfl | hpos := Nat.eq_zero_or_pos n
  · exact absurd h.1 (by decide)
  · exact head?_toDigits hpos h.2

/-! ### What else a numeral might be -/

lemma signed_of_allDigits (h : AllDigits cs) : signed cs = (false, cs) := by
  unfold signed
  split
  case h_1 => exact absurd (h '-' List.mem_cons_self) (by decide)
  case h_2 => exact absurd (h '+' List.mem_cons_self) (by decide)
  case h_3 => rfl

/-- Digits alone have no base in front. -/
lemma integer?_of_allDigits (h : AllDigits cs) : integer? cs = decimal? cs := by
  unfold integer?
  split
  case h_1 => exact absurd (h 'x' (by simp)) (by decide)
  case h_2 => exact absurd (h 'o' (by simp)) (by decide)
  case h_3 => exact absurd (h 'b' (by simp)) (by decide)
  case h_4 => rfl

lemma float?_of_allDigits (h : AllDigits cs) : float? cs = none := by
  have hfractional : fractional? false cs = none := by
    have hmarks : ∀ c ∈ cs, isDigitOrMark c = true := fun c hc => by simp [isDigitOrMark, h c hc]
    rw [fractional?, List.span_eq_takeWhile_dropWhile, List.dropWhile_eq_nil_iff.mpr hmarks]
    simp
  unfold float?
  rw [signed_of_allDigits h]
  split
  case h_1 heq =>
    obtain rfl := (Prod.mk.inj heq).2
    exact absurd (h 'i' (by simp)) (by decide)
  case h_2 heq =>
    obtain rfl := (Prod.mk.inj heq).2
    exact absurd (h 'n' (by simp)) (by decide)
  case h_3 heq =>
    obtain ⟨rfl, rfl⟩ := Prod.mk.inj heq
    exact hfractional

namespace Moment

/-- The digits of a field are followed by something else. -/
lemma char_field_of_allDigits (h : AllDigits cs) {digits number : Nat} {rest : List Char}
    (hfield : field digits cs = some (number, rest)) (mark : Char) (hmark : mark.isDigit = false) :
    char mark rest = none := by
  simp only [field] at hfield
  split at hfield
  case isTrue =>
    obtain ⟨-, rfl⟩ := Prod.mk.inj (Option.some.inj hfield)
    cases hdrop : cs.drop digits with
    | nil => rfl
    | cons c rest =>
      have hc : c ∈ cs.drop digits := hdrop ▸ List.mem_cons_self
      exact if_neg (ne_of_isDigit (h c (List.mem_of_mem_drop hc)) mark hmark)
  case isFalse => cases hfield

lemma date_of_allDigits (h : AllDigits cs) : date cs = none := by
  cases hfield : field 4 cs with
  | none => rw [date, hfield]; rfl
  | some found =>
    rw [date, hfield, Option.bind_eq_bind, Option.bind_some]
    simp only [char_field_of_allDigits h hfield '-' (by decide)]
    rfl

lemma time_of_allDigits (h : AllDigits cs) : time cs = none := by
  cases hfield : field 2 cs with
  | none => rw [time, hfield]; rfl
  | some found =>
    rw [time, hfield, Option.bind_eq_bind, Option.bind_some]
    simp only [char_field_of_allDigits h hfield ':' (by decide)]
    rfl

lemma isMoment_of_allDigits (h : AllDigits cs) : isMoment cs = false := by
  simp [isMoment, date_of_allDigits h, time_of_allDigits h]

end Moment

/-! ### Reading -/

lemma ofBare?_of_allDigits (h : AllDigits cs) : ofBare? cs = (decimal? cs).map .integer := by
  have htrue : cs ≠ "true".toList := by
    rintro rfl
    exact absurd (h 't' (by decide)) (by decide)
  have hfalse : cs ≠ "false".toList := by
    rintro rfl
    exact absurd (h 'f' (by decide)) (by decide)
  rw [ofBare?, if_neg htrue, if_neg hfalse, integer?_of_allDigits h, float?_of_allDigits h,
    Moment.isMoment_of_allDigits h]
  simp

/-- A number in its decimal digits is the integer if it fits and nothing otherwise. -/
theorem ofBare?_toDigits (n : Nat) :
    ofBare? (Nat.toDigits 10 n) = if n < 2 ^ 63 then some (.integer n) else none := by
  rw [ofBare?_of_allDigits (allDigits_toDigits n), decimal?,
    signed_of_allDigits (allDigits_toDigits n)]
  simp only [wholeDigits?_toDigits, Option.bind_eq_bind, Option.bind_some, ofDigits_toDigits]
  have hfits : leastInteger ≤ n ∧ (n : Int) ≤ greatestInteger ↔ n < 2 ^ 63 := by
    unfold leastInteger greatestInteger
    omega
  simp only [negateIf, inRange, Bool.false_eq_true, if_false, hfits]
  split <;> rfl

end BytePool.Toml
