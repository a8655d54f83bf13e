import Mathlib
import BytePool.ByteOrder

/-!
# Spellings of byte orders

A text means a byte order if it is a name of this order, in any ASCII case and with any white space
around it. Of all other texts, those of nothing but white space are unset and the rest is unknown.
-/
namespace BytePool

/-! ### White space -/

namespace Text

/-- The ranges of the property White_Space. -/
def whiteSpaceRanges : List (Nat × Nat) :=
  [(0x9, 0xd), (0x20, 0x20), (0x85, 0x85), (0xa0, 0xa0), (0x1680, 0x1680), (0x2000, 0x200a),
    (0x2028, 0x2029), (0x202f, 0x202f), (0x205f, 0x205f), (0x3000, 0x3000)]

def IsWhiteSpace (c : Char) : Prop :=
  ∃ range ∈ whiteSpaceRanges, range.1 ≤ c.toNat ∧ c.toNat ≤ range.2

instance (c : Char) : Decidable (IsWhiteSpace c) :=
  inferInstanceAs (Decidable (∃ range ∈ whiteSpaceRanges, range.1 ≤ c.toNat ∧ c.toNat ≤ range.2))

lemma isBlank_iff (c : Char) : isBlank c = true ↔ IsWhiteSpace c := by
  constructor
  · have hall : blanks.all (IsWhiteSpace ·) = true := by decide
    exact fun h => of_decide_eq_true (List.all_eq_true.mp hall c (List.contains_iff_mem.mp h))
  · have hall : ∀ range ∈ whiteSpaceRanges, ∀ n ∈ List.range' range.1 (range.2 + 1 - range.1),
        isBlank (Char.ofNat n) = true := by decide
    rintro ⟨range, hmem, hlow, hhigh⟩
    rw [← Char.ofNat_toNat c]
    exact hall range hmem _ (List.mem_range'_1.mpr ⟨hlow, by omega⟩)

lemma all_isBlank_iff (cs : List Char) : cs.all isBlank = true ↔ ∀ c ∈ cs, IsWhiteSpace c := by
  simp only [List.all_eq_true, isBlank_iff]

/-! White space at the ends, and only there, makes no difference to what is left. -/

lemma exists_trim (cs : List Char) :
    ∃ before after, cs = before ++ trim cs ++ after ∧ before.all isBlank = true ∧
      after.all isBlank = true := by
  have htaken (cs : List Char) : (cs.takeWhile isBlank).all isBlank = true :=
    List.all_eq_true.mpr fun c hc => List.mem_takeWhile_imp hc
  refine ⟨cs.takeWhile isBlank, ((cs.dropWhile isBlank).reverse.takeWhile isBlank).reverse, ?_,
    htaken cs, by rw [List.all_reverse, htaken]⟩
  rw [trim, List.append_assoc, ← List.reverse_append, List.takeWhile_append_dropWhile,
    List.reverse_reverse, List.takeWhile_append_dropWhile]

variable {before word after : List Char}

lemma trim_append (hbefore : before.all isBlank = true) (hafter : after.all isBlank = true) :
    trim (before ++ word ++ after) = trim word := by
  rw [List.all_eq_true] at hbefore hafter
  have hreverse : ∀ c ∈ after.reverse, isBlank c = true := by simpa using hafter
  rw [trim, List.append_assoc, List.dropWhile_append_of_pos hbefore, List.dropWhile_append]
  split
  case isTrue h =>
    rw [List.dropWhile_eq_nil_iff.mpr hafter, trim, List.isEmpty_iff.mp h]
  case isFalse => rw [List.reverse_append, List.dropWhile_append_of_pos hreverse, trim]

lemma trim_of_not_blank (h : ∀ c ∈ word, isBlank c = false) : trim word = word := by
  have hkeep {cs : List Char} (h : ∀ c ∈ cs, isBlank c = false) : cs.dropWhile isBlank = cs := by
    cases cs with
    | nil => rfl
    | cons c cs => rw [List.dropWhile_cons_of_neg (by simp [h c])]
  rw [trim, hkeep h, hkeep (by simpa using h), List.reverse_reverse]

lemma trim_eq_nil_iff (cs : List Char) : trim cs = [] ↔ cs.all isBlank = true := by
  refine ⟨fun h => ?_, trim_of_all⟩
  obtain ⟨before, after, heq, hbefore, hafter⟩ := exists_trim cs
  rw [heq, h]
  simp [hbefore, hafter]

/-! ### Cases -/

/-- The same character, or the two cases of one ASCII letter. -/
def SameLetter (c d : Char) : Prop :=
  c = d ∨ c.isUpper = true ∧ d.toNat = c.toNat + 32 ∨ d.isUpper = true ∧ c.toNat = d.toNat + 32

/-- The same text but for the case of ASCII letters. -/
def SameLetters : List Char → List Char → Prop := List.Forall₂ SameLetter

lemma isUpper_iff (c : Char) : c.isUpper = true ↔ 65 ≤ c.toNat ∧ c.toNat ≤ 90 := by
  simp only [Char.isUpper, decide_eq_true_eq, ge_iff_le, UInt32.le_iff_toNat_le]
  rfl

lemma toNat_toLower (c : Char) :
    c.toLower.toNat = if c.isUpper = true then c.toNat + 32 else c.toNat := by
  by_cases h : c.isUpper = true
  · have hrange := (isUpper_iff c).mp h
    have hvalid : (c.toNat + 32).isValidChar := .inl (by omega)
    rw [if_pos h, Char.toLower_eq_of_isUpper h, Char.toNat_ofNat, if_pos hvalid]
  · rw [if_neg h, Char.toLower_eq_of_not_isUpper h]

lemma sameLetter_iff (c d : Char) : SameLetter c d ↔ c.toLower = d.toLower := by
  rw [← Char.toNat_inj, toNat_toLower, toNat_toLower, SameLetter, ← Char.toNat_inj]
  split_ifs <;> simp only [isUpper_iff] at * <;> omega

lemma sameLetters_iff (cs ds : List Char) :
    SameLetters cs ds ↔ cs.map Char.toLower = ds.map Char.toLower := by
  rw [← List.forall₂_eq_eq_eq, List.forall₂_map_left_iff, List.forall₂_map_right_iff, SameLetters]
  simp only [funext₂ fun c d => propext (sameLetter_iff c d)]

lemma isBlank_toLower (c : Char) : isBlank c.toLower = isBlank c := by
  by_cases h : c.isUpper = true
  · have hall : ∀ n ∈ List.range' 65 26,
        isBlank (Char.ofNat n).toLower = isBlank (Char.ofNat n) := by decide
    rw [← Char.ofNat_toNat c]
    exact hall _ (List.mem_range'_1.mpr (by have := (isUpper_iff c).mp h; omega))
  · rw [Char.toLower_eq_of_not_isUpper h]

lemma trim_map_toLower (cs : List Char) :
    trim (cs.map Char.toLower) = (trim cs).map Char.toLower := by
  have hdrop (cs : List Char) :
      (cs.map Char.toLower).dropWhile isBlank = (cs.dropWhile isBlank).map Char.toLower := by
    rw [List.dropWhile_map]
    exact congrArg (fun p => (cs.dropWhile p).map Char.toLower) (funext isBlank_toLower)
  simp only [trim, hdrop, ← List.map_reverse]

end Text

/-! ### Spellings -/

namespace ByteOrder
open Text

/-- A name of the order in any ASCII case, with any white space around it. -/
def Spells (o : ByteOrder) (raw : String) : Prop :=
  ∃ before word after, raw.toList = before ++ word ++ after ∧ (∀ c ∈ before, IsWhiteSpace c) ∧
    (∀ c ∈ after, IsWhiteSpace c) ∧ ∃ name ∈ o.spellings, SameLetters word name.toList

lemma mem_spellings_lower {o : ByteOrder} {name : String} (h : name ∈ o.spellings) :
    name.toList.map Char.toLower = name.toList ∧ name.toList.all (!isBlank ·) = true ∧
      name.toList ≠ [] ∧ name.toList.all (·.toNat ≤ 127) = true := by
  have hall : ∀ o ∈ all, ∀ name ∈ o.spellings,
      name.toList.map Char.toLower = name.toList ∧ name.toList.all (!isBlank ·) = true ∧
        name.toList ≠ [] ∧ name.toList.all (·.toNat ≤ 127) = true := by decide
  exact hall o (mem_all o) name h

/-- No two orders have a name in common. -/
lemma eq_of_mem_spellings {o p : ByteOrder} {name : String} (ho : name ∈ o.spellings)
    (hp : name ∈ p.spellings) : o = p := by
  have hall : ∀ o ∈ all, ∀ p ∈ all, ∀ name ∈ o.spellings, name ∈ p.spellings → o = p := by decide
  exact hall o (mem_all o) p (mem_all p) name ho hp

lemma spells_iff (o : ByteOrder) (raw : String) :
    o.Spells raw ↔ ∃ name ∈ o.spellings, folded raw = name.toList := by
  constructor
  · rintro ⟨before, word, after, heq, hbefore, hafter, name, hname, hsame⟩
    obtain ⟨hlower, hinner, -⟩ := mem_spellings_lower hname
    rw [← all_isBlank_iff] at hbefore hafter
    rw [sameLetters_iff, hlower] at hsame
    -- No character of a name is blank, in either case, so trimming takes the white space and stops.
    have hword : ∀ c ∈ word, isBlank c = false := by
      intro c hc
      have hmem : c.toLower ∈ name.toList := hsame ▸ List.mem_map_of_mem hc
      rw [← isBlank_toLower]
      simpa using List.all_eq_true.mp hinner _ hmem
    refine ⟨name, hname, ?_⟩
    rw [folded, heq, trim_append hbefore hafter, trim_of_not_blank hword, hsame]
  · rintro ⟨name, hname, hfolded⟩
    obtain ⟨before, after, heq, hbefore, hafter⟩ := exists_trim raw.toList
    rw [all_isBlank_iff] at hbefore hafter
    refine ⟨before, trim raw.toList, after, heq, hbefore, hafter, name, hname, ?_⟩
    rw [sameLetters_iff, (mem_spellings_lower hname).1]
    exact hfolded

lemma Spells.unique {o p : ByteOrder} {raw : String} (ho : o.Spells raw) (hp : p.Spells raw) :
    o = p := by
  obtain ⟨name, hname, heq⟩ := (spells_iff o raw).mp ho
  obtain ⟨name', hname', heq'⟩ := (spells_iff p raw).mp hp
  obtain rfl : name = name' := String.toList_inj.mp (heq.symm.trans heq')
  exact eq_of_mem_spellings hname hname'

/-! ### Reading -/

lemma folded_eq_nil_iff (raw : String) : folded raw = [] ↔ ∀ c ∈ raw.toList, IsWhiteSpace c := by
  rw [folded, List.map_eq_nil_iff, trim_eq_nil_iff, all_isBlank_iff]

lemma not_spells_of_folded_eq_nil {raw : String} (h : folded raw = []) (o : ByteOrder) :
    ¬o.Spells raw := by
  rw [spells_iff]
  rintro ⟨name, hname, heq⟩
  exact (mem_spellings_lower hname).2.2.1 (heq.symm.trans h)

/-- A text is read in one of three ways. -/
lemma parse_cases (raw : String) :
    (∀ c ∈ raw.toList, IsWhiteSpace c) ∧ (∀ o : ByteOrder, ¬o.Spells raw) ∧
        parse raw = .error unset ∨
      (∃ o : ByteOrder, o.Spells raw ∧ parse raw = .ok o) ∨
      (∃ c ∈ raw.toList, ¬IsWhiteSpace c) ∧ (∀ o : ByteOrder, ¬o.Spells raw) ∧
        parse raw = .error (unknown raw) := by
  by_cases hnil : folded raw = []
  · refine .inl ⟨(folded_eq_nil_iff raw).mp hnil, not_spells_of_folded_eq_nil hnil, ?_⟩
    simp [parse, hnil]
  have hsome : ∃ c ∈ raw.toList, ¬IsWhiteSpace c := by
    simpa using mt (folded_eq_nil_iff raw).mpr hnil
  cases hfind : all.find? fun o => o.spellings.any fun s => s.toList == folded raw with
  | some o =>
    have hparse : parse raw = .ok o := by simp [parse, hnil, hfind]
    have hnamed := List.find?_some hfind
    obtain ⟨name, hname, heq⟩ := List.any_eq_true.mp hnamed
    exact .inr (.inl ⟨o, (spells_iff o raw).mpr ⟨name, hname, (beq_iff_eq.mp heq).symm⟩, hparse⟩)
  | none =>
    have hparse : parse raw = .error (unknown raw) := by simp [parse, hnil, hfind]
    refine .inr (.inr ⟨hsome, fun o ho => ?_, hparse⟩)
    obtain ⟨name, hname, heq⟩ := (spells_iff o raw).mp ho
    have hnone := List.find?_eq_none.mp hfind o (mem_all o)
    exact hnone (List.any_eq_true.mpr ⟨name, hname, by simp [heq]⟩)

lemma parse_eq_ok_iff (raw : String) (o : ByteOrder) : parse raw = .ok o ↔ o.Spells raw := by
  obtain ⟨-, hnone, heq⟩ | ⟨p, hp, heq⟩ | ⟨-, hnone, heq⟩ := parse_cases raw
  · exact iff_of_false (by simp [heq]) (hnone o)
  · rw [heq, Except.ok.injEq]
    exact ⟨fun h => h ▸ hp, hp.unique⟩
  · exact iff_of_false (by simp [heq]) (hnone o)

lemma unknown_ne_unset (raw : String) : unknown raw ≠ unset := by
  intro h
  have hreason := congrArg (·.toList.head?) (Error.invalidArgument.inj h).2
  simp at hreason

lemma parse_eq_unset_iff (raw : String) :
    parse raw = .error unset ↔ ∀ c ∈ raw.toList, IsWhiteSpace c := by
  obtain ⟨hblank, -, heq⟩ | ⟨p, hp, heq⟩ | ⟨⟨c, hc, hsolid⟩, -, heq⟩ := parse_cases raw
  · exact iff_of_true heq hblank
  · refine iff_of_false (by simp [heq]) fun hblank => ?_
    exact not_spells_of_folded_eq_nil ((folded_eq_nil_iff raw).mpr hblank) p hp
  · refine iff_of_false ?_ fun hblank => hsolid (hblank c hc)
    simpa [heq] using unknown_ne_unset raw

lemma parse_eq_unknown {raw : String} (hnone : ∀ o : ByteOrder, ¬o.Spells raw)
    (hsolid : ∃ c ∈ raw.toList, ¬IsWhiteSpace c) : parse raw = .error (unknown raw) := by
  obtain ⟨hblank, -, -⟩ | ⟨p, hp, -⟩ | ⟨-, -, heq⟩ := parse_cases raw
  · obtain ⟨c, hc, hsolid⟩ := hsolid
    exact absurd (hblank c hc) hsolid
  · exact absurd hp (hnone p)
  · exact heq

lemma parse_eq_unknown_iff (raw : String) : parse raw = .error (unknown raw) ↔
    (∀ o : ByteOrder, ¬o.Spells raw) ∧ ¬∀ c ∈ raw.toList, IsWhiteSpace c := by
  refine ⟨fun h => ⟨fun o ho => ?_, fun hblank => ?_⟩,
    fun h => parse_eq_unknown h.1 (by simpa using h.2)⟩
  · rw [(parse_eq_ok_iff raw o).mpr ho] at h
    cases h
  · rw [(parse_eq_unset_iff raw).mpr hblank] at h
    exact unknown_ne_unset raw (Except.error.inj h).symm

/-- A character beyond ASCII stands in no name, also if another case of it is a letter of ASCII. -/
lemma not_spells_of_beyond {raw : String} {c : Char} (hc : c ∈ raw.toList) (hbeyond : 127 < c.toNat)
    (hsolid : ¬IsWhiteSpace c) (o : ByteOrder) : ¬o.Spells raw := by
  rintro ⟨before, word, after, heq, hbefore, hafter, name, hname, hsame⟩
  obtain ⟨hlower, -, -, hascii⟩ := mem_spellings_lower hname
  rw [sameLetters_iff, hlower] at hsame
  have hword : c ∈ word := by
    rw [heq, List.mem_append, List.mem_append] at hc
    obtain (hc | hc) | hc := hc
    · exact absurd (hbefore c hc) hsolid
    · exact hc
    · exact absurd (hafter c hc) hsolid
  have hmem : c.toLower ∈ name.toList := hsame ▸ List.mem_map_of_mem hword
  have hle := of_decide_eq_true (List.all_eq_true.mp hascii _ hmem)
  rw [toNat_toLower] at hle
  split at hle <;> omega

/-- Some text with more white space around it and letters in other cases. -/
def Restyled (raw restyled : String) : Prop :=
  ∃ before word after, restyled.toList = before ++ word ++ after ∧
    (∀ c ∈ before, IsWhiteSpace c) ∧ (∀ c ∈ after, IsWhiteSpace c) ∧ SameLetters word raw.toList

lemma Restyled.folded_eq {raw restyled : String} (h : Restyled raw restyled) :
    folded restyled = folded raw := by
  obtain ⟨before, word, after, heq, hbefore, hafter, hsame⟩ := h
  rw [← all_isBlank_iff] at hbefore hafter
  calc folded restyled
      = (trim word).map Char.toLower := by rw [folded, heq, trim_append hbefore hafter]
    _ = trim (raw.toList.map Char.toLower) := by
        rw [← trim_map_toLower, (sameLetters_iff _ _).mp hsame]
    _ = folded raw := trim_map_toLower _

/-- What the spelling of a text says about how it is read. -/
structure ReadBySpelling (raw : String) : Prop where
  names : big.spellings = ["big", "big-endian", "big_endian", "bigendian", "be", "network"] ∧
    little.spellings = ["little", "little-endian", "little_endian", "littleendian", "le"]
  order (o : ByteOrder) : parse raw = .ok o ↔ o.Spells raw
  blank : parse raw = .error (.invalidArgument "order" "byte order is unset") ↔
    ∀ c ∈ raw.toList, IsWhiteSpace c
  otherwise : (∀ o : ByteOrder, ¬o.Spells raw) → (∃ c ∈ raw.toList, ¬IsWhiteSpace c) →
    parse raw = .error (.invalidArgument "order" ("unknown byte order `" ++ raw ++ "`"))
  exclusive : ¬(big.Spells raw ∧ little.Spells raw)
  /-- The verdict on other styles of the text is the same. -/
  style (restyled : String) : Restyled raw restyled →
    (∀ o, parse restyled = .ok o ↔ parse raw = .ok o) ∧
      (parse restyled = .error unset ↔ parse raw = .error unset) ∧
      (parse restyled = .error (unknown restyled) ↔ parse raw = .error (unknown raw))
  /-- No letter beyond ASCII passes for one of ASCII. -/
  beyond : (∃ c ∈ raw.toList, 127 < c.toNat ∧ ¬IsWhiteSpace c) →
    parse raw = .error (.invalidArgument "order" ("unknown byte order `" ++ raw ++ "`"))

theorem parse_readBySpelling (raw : String) : ReadBySpelling raw where
  names := ⟨rfl, rfl⟩
  order := parse_eq_ok_iff raw
  blank := parse_eq_unset_iff raw
  otherwise hnone hsolid := parse_eq_unknown hnone hsolid
  exclusive h := absurd (h.1.unique h.2) (by decide)
  style restyled h := by
    have horder (o : ByteOrder) : o.Spells restyled ↔ o.Spells raw := by
      rw [spells_iff, spells_iff, h.folded_eq]
    have hblank : (∀ c ∈ restyled.toList, IsWhiteSpace c) ↔ ∀ c ∈ raw.toList, IsWhiteSpace c := by
      rw [← folded_eq_nil_iff, ← folded_eq_nil_iff, h.folded_eq]
    refine ⟨fun o => ?_, ?_, ?_⟩
    · rw [parse_eq_ok_iff, parse_eq_ok_iff, horder]
    · rw [parse_eq_unset_iff, parse_eq_unset_iff, hblank]
    · simp only [parse_eq_unknown_iff, horder, hblank]
  beyond := by
    rintro ⟨c, hc, hbeyond, hsolid⟩
    exact parse_eq_unknown (not_spells_of_beyond hc hbeyond hsolid) ⟨c, hc, hsolid⟩

example : parse "\u3000Big-ENDIAN\t" = .ok big ∧
    parse "networ\u212a" = .error (unknown "networ\u212a") := by decide

end ByteOrder
end BytePool
