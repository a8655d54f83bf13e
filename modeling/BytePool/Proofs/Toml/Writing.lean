import Mathlib.Data.List.Forall2
import BytePool.Proofs.Toml.Numeral
import BytePool.Toml.Document

/-!
# Documents of written lines

A line with a bare key, an equals sign and a value is read back as this pair wherever it stands in a
document. If its value is none, so that the line cannot be read, neither can any document with it.
-/
namespace BytePool.Toml

/-- Text that starts with the end of a line, and what follows this end. -/
inductive LineBreak : List Char → List Char → Prop
  | close : LineBreak [] []
  | feed (rest : List Char) : LineBreak ('\n' :: rest) rest
  | carriage (rest : List Char) : LineBreak ('\r' :: '\n' :: rest) rest

/-- The lines of a text. A newline of either form ends each of them but the last, which may also end
with the text. -/
inductive Lines : List (List Char) → List Char → Prop
  | nil : Lines [] []
  | cons (line : List Char) {lines : List (List Char)} {tail rest : List Char} :
      LineBreak tail rest → Lines lines rest → Lines (line :: lines) (line ++ tail)

variable {cs name text tail rest : List Char} {v : Option Value}

namespace LineBreak

lemma skipBlanks_eq (h : LineBreak tail rest) : skipBlanks tail = tail := by
  cases h <;> rfl

lemma lineEnd_eq (h : LineBreak tail rest) : lineEnd tail = some rest := by
  cases h <;> rfl

lemma length_le (h : LineBreak tail rest) : rest.length ≤ tail.length := by
  cases h with
  | close => exact le_rfl
  | feed => exact Nat.le_succ _
  | carriage => exact Nat.le_add_right _ 2

/-- No line ends with one of the characters that may go on within it. -/
lemma head?_not (h : LineBreak tail rest) {p : Char → Bool} (hfeed : p '\n' = false)
    (hcarriage : p '\r' = false) : ∀ c ∈ tail.head?, p c = false := by
  cases h <;> simp [hfeed, hcarriage]

end LineBreak

lemma span_append {p : Char → Bool} (hall : ∀ c ∈ cs, p c = true)
    (hstop : ∀ c ∈ tail.head?, p c = false) : (cs ++ tail).span p = (cs, tail) := by
  rw [List.span_eq_takeWhile_dropWhile, List.takeWhile_append_of_pos hall,
    List.dropWhile_append_of_pos hall]
  cases tail with
  | nil => simp
  | cons c tail =>
    have hc := hstop c (by simp)
    rw [List.takeWhile_cons_of_neg (by simp [hc]), List.dropWhile_cons_of_neg (by simp [hc]),
      List.append_nil]

/-! ### Values -/

/-- The text of a value up to the end of its line, or a text that is no value there. -/
structure Stands (text : List Char) (v : Option Value) : Prop where
  starts : ∃ c cs, text = c :: cs ∧ isBlank c = false
  read (tail rest : List Char) : LineBreak tail rest →
    value (depthLimit - 1) (text ++ tail) = v.map fun v => (v, tail)

lemma value_eq_scalarValue {c : Char} (hbracket : c ≠ '[') (hbrace : c ≠ '\x7b') :
    value (depthLimit - 1) (c :: cs) = scalarValue (c :: cs) := by
  change value (78 + 1) (c :: cs) = _
  unfold value
  split
  case h_1 heq => exact absurd (List.cons.inj heq).1 hbracket
  case h_2 heq => exact absurd (List.cons.inj heq).1 hbrace
  case h_3 => rfl

/-! Numerals. -/

lemma text_eq_none {c : Char} (hdouble : c ≠ '"') (hsingle : c ≠ '\'') :
    Toml.text (c :: cs) = none := by
  unfold Toml.text
  split
  case h_1 heq => exact absurd (List.cons.inj heq).1 hdouble
  case h_2 heq => exact absurd (List.cons.inj heq).1 hsingle
  case h_3 =>
    unfold lineText
    split
    case h_1 heq => exact absurd (List.cons.inj heq).1 hdouble
    case h_2 heq => exact absurd (List.cons.inj heq).1 hsingle
    case h_3 => rfl

lemma bareRun_append (hbare : ∀ c ∈ cs, isBare c = true) (htail : LineBreak tail rest) :
    bareRun (cs ++ tail) = (cs, tail) := by
  rw [bareRun, span_append hbare (htail.head?_not (by decide) (by decide))]
  cases htail <;> rfl

theorem stands_toDigits (n : Nat) :
    Stands (Nat.toDigits 10 n) (if n < 2 ^ 63 then some (.integer n) else none) := by
  obtain ⟨c, cs, heq⟩ := List.exists_cons_of_ne_nil (Nat.toDigits_ne_nil (n := n) (b := 10))
  have hdigit : c.isDigit = true := allDigits_toDigits n c (heq ▸ List.mem_cons_self)
  have hne (d : Char) (hd : d.isDigit = false) : c ≠ d := ne_of_isDigit hdigit d hd
  have hbare : ∀ c ∈ Nat.toDigits 10 n, isBare c = true := fun c hc => by
    simp [isBare, Char.isAlphanum, allDigits_toDigits n c hc]
  constructor
  case starts => exact ⟨c, cs, heq, by simp [isBlank, hne]⟩
  case read =>
    intro tail rest htail
    have hscalar : value (depthLimit - 1) (Nat.toDigits 10 n ++ tail) =
        scalarValue (Nat.toDigits 10 n ++ tail) := by
      rw [heq]
      exact value_eq_scalarValue (hne _ (by decide)) (hne _ (by decide))
    have hnone : Toml.text (Nat.toDigits 10 n ++ tail) = none := by
      rw [heq]
      exact text_eq_none (hne _ (by decide)) (hne _ (by decide))
    rw [hscalar, scalarValue, hnone, bareRun_append hbare htail]
    simp only [ofBare?_toDigits]
    split <;> rfl

/-! Texts between quotes. -/

/-- A character that stands for itself between double quotes. -/
def IsPlain (c : Char) : Prop := isAllowed c = true ∧ c ≠ '"' ∧ c ≠ '\\'

lemma basicChar_plain {c : Char} (hc : IsPlain c) (cs : List Char) :
    basicChar (c :: cs) = some (c, cs) := by
  unfold basicChar
  split
  case h_1 heq => exact absurd (List.cons.inj heq).1 hc.2.2
  case h_2 heq =>
    obtain ⟨rfl, rfl⟩ := List.cons.inj heq
    exact if_pos ⟨hc.1, hc.2.1⟩
  case h_3 heq => cases heq

lemma many_basicChar (hplain : ∀ c ∈ cs, IsPlain c) (tail : List Char) :
    many basicChar (cs ++ '"' :: tail) = (cs, '"' :: tail) := by
  induction cs with
  | nil => exact many_of_none (by simp [basicChar])
  | cons c cs ih =>
    have hread := basicChar_plain (hplain c List.mem_cons_self) (cs ++ '"' :: tail)
    rw [List.cons_append, many_of_some hread (by simp),
      ih fun d hd => hplain d (List.mem_cons_of_mem c hd)]

lemma text_quoted (hplain : ∀ c ∈ cs, IsPlain c) (htail : LineBreak tail rest) :
    Toml.text ('"' :: (cs ++ '"' :: tail)) = some (String.ofList cs, tail) := by
  have hline : lineText ('"' :: (cs ++ '"' :: tail)) = some (String.ofList cs, tail) := by
    rw [lineText, quoted, many_basicChar hplain]
    rfl
  unfold Toml.text
  split
  case h_1 heq =>
    -- Three quotes in a row: the first of the text is none, nor does its line go on with one.
    have hrow := (List.cons.inj heq).2
    cases cs with
    | nil => cases htail <;> cases hrow
    | cons c cs => exact absurd (List.cons.inj hrow).1 (hplain c List.mem_cons_self).2.1
  case h_2 heq => cases heq
  case h_3 => exact hline

theorem stands_quoted (hplain : ∀ c ∈ cs, IsPlain c) :
    Stands ('"' :: (cs ++ ['"'])) (some (.string (String.ofList cs))) where
  starts := ⟨'"', _, rfl, by decide⟩
  read tail rest htail := by
    rw [List.cons_append, value_eq_scalarValue (by decide) (by decide), scalarValue,
      List.append_assoc, List.singleton_append, text_quoted hplain htail]
    rfl

/-! ### Lines -/

/-- A bare key. -/
def IsBareName (name : List Char) : Prop := name ≠ [] ∧ ∀ c ∈ name, isBareKey c = true

def assignment (name text : List Char) : List Char := name ++ ' ' :: '=' :: ' ' :: text

lemma IsBareName.exists_head (h : IsBareName name) :
    ∃ c cs, name = c :: cs ∧ isBareKey c = true := by
  obtain ⟨c, cs, rfl⟩ := List.exists_cons_of_ne_nil h.1
  exact ⟨c, cs, rfl, h.2 c List.mem_cons_self⟩

lemma ne_of_isBareKey {c : Char} (hc : isBareKey c = true) (d : Char) (hd : isBareKey d = false) :
    c ≠ d := by
  rintro rfl
  exact absurd hc (by simp [hd])

lemma skipBlanks_of_isBareName (h : IsBareName name) (cs : List Char) :
    skipBlanks (name ++ cs) = name ++ cs := by
  obtain ⟨c, name, rfl, hc⟩ := h.exists_head
  have hblank : isBlank c = false := by
    simp [isBlank, ne_of_isBareKey hc ' ' (by decide), ne_of_isBareKey hc '\t' (by decide)]
  exact List.dropWhile_cons_of_neg (by simp [hblank])

lemma keyPart_append (h : IsBareName name) (hstop : ∀ c ∈ cs.head?, isBareKey c = false) :
    keyPart (name ++ cs) = some (String.ofList name, cs) := by
  obtain ⟨c, name, rfl, -⟩ := h.exists_head
  rw [keyPart, span_append h.2 hstop]

lemma key_append (h : IsBareName name) (cs : List Char) :
    key (name ++ ' ' :: '=' :: cs) = some (⟨[], String.ofList name⟩, '=' :: cs) := by
  have hpart : spacedPart (name ++ ' ' :: '=' :: cs) = some (String.ofList name, '=' :: cs) := by
    rw [spacedPart, skipBlanks_of_isBareName h, keyPart_append h (by simp; decide)]
    rfl
  have hlast : many (fun cs => (char '.' cs).bind spacedPart) ('=' :: cs) = ([], '=' :: cs) :=
    many_of_none rfl
  rw [key, separated, hpart]
  simp only [Option.bind_eq_bind, Option.bind_some, hlast]
  rfl

lemma lineEnd_of_isBareName (h : IsBareName name) (cs : List Char) :
    lineEnd (name ++ cs) = none := by
  rw [lineEnd, skipBlanks_of_isBareName h]
  obtain ⟨c, name, rfl, hc⟩ := h.exists_head
  have hcomment : skipComment (c :: name ++ cs) = c :: name ++ cs := by
    unfold skipComment
    split
    case h_1 heq => exact absurd (List.cons.inj heq).1 (ne_of_isBareKey hc _ (by decide))
    case h_2 => rfl
  rw [hcomment, List.cons_append]
  simp only [newline]
  split
  case h_1 heq => exact absurd (List.cons.inj heq).1 (ne_of_isBareKey hc _ (by decide))
  case h_2 heq => exact absurd (List.cons.inj heq).1 (ne_of_isBareKey hc _ (by decide))
  case h_3 => rfl

/-- A line that is read as something, or not at all, whatever follows it. -/
structure IsRead (line : List Char) (found : Option Line) : Prop where
  starts : ∃ c cs, line = c :: cs ∧ c ≠ '\ufeff'
  read (tail rest : List Char) : LineBreak tail rest →
    Line.read (line ++ tail) = found.map fun found => (found, rest)

lemma pairLine_assignment (hname : IsBareName name) (h : Stands text v)
    (htail : LineBreak tail rest) : Line.pairLine (assignment name text ++ tail) =
      v.map fun v => (.pair ⟨[], String.ofList name⟩ v, rest) := by
  obtain ⟨c, cs, hstart, hblank⟩ := h.starts
  have hskip : skipBlanks (' ' :: (text ++ tail)) = text ++ tail := by
    rw [hstart, skipBlanks, List.dropWhile_cons_of_pos (by decide)]
    exact List.dropWhile_cons_of_neg (by simp [hblank])
  have hpair : Toml.pair (value (depthLimit - 1)) (assignment name text ++ tail) =
      v.map fun v => ((⟨[], String.ofList name⟩, v), tail) := by
    rw [Toml.pair, assignment, List.append_assoc, List.cons_append, List.cons_append,
      List.cons_append, key_append hname]
    simp only [Option.bind_eq_bind, Option.bind_some, char, if_true, hskip, h.read tail rest htail]
    cases v <;> simp [htail.skipBlanks_eq]
  rw [Line.pairLine, hpair]
  cases v <;> simp [htail.lineEnd_eq]

theorem isRead_assignment (hname : IsBareName name) (h : Stands text v) :
    IsRead (assignment name text) (v.map (.pair ⟨[], String.ofList name⟩)) := by
  obtain ⟨c, cs, hstart, hc⟩ := hname.exists_head
  constructor
  case starts => exact ⟨c, _, by rw [assignment, hstart]; rfl, ne_of_isBareKey hc _ (by decide)⟩
  case read =>
    intro tail rest htail
    have hpair := pairLine_assignment hname h htail
    have hassignment : assignment name text ++ tail = name ++ (' ' :: '=' :: ' ' :: text ++ tail) :=
      List.append_assoc ..
    have hcons : name ++ (' ' :: '=' :: ' ' :: text ++ tail) =
        c :: (cs ++ (' ' :: '=' :: ' ' :: text ++ tail)) := by rw [hstart]; rfl
    have hend := lineEnd_of_isBareName hname (' ' :: '=' :: ' ' :: text ++ tail)
    have hskip := skipBlanks_of_isBareName hname (' ' :: '=' :: ' ' :: text ++ tail)
    rw [hassignment] at hpair ⊢
    rw [hcons] at hpair hend hskip ⊢
    rw [Line.read]
    simp only [hskip]
    split
    case h_1 heq => exact absurd (List.cons.inj heq).1 (ne_of_isBareKey hc _ (by decide))
    case h_2 heq => exact absurd (List.cons.inj heq).1 (ne_of_isBareKey hc _ (by decide))
    case h_3 =>
      rw [hend, hpair]
      cases v <;> rfl

/-! ### Documents -/

section Documents
variable {lines more : List (List Char)} {found : List Line} {document : List Char}

lemma skipMark_of_ne {c : Char} (hc : c ≠ '\ufeff') : skipMark (c :: cs) = c :: cs := by
  unfold skipMark
  split
  case h_1 heq => exact absurd (List.cons.inj heq).1 hc
  case h_2 => rfl

/-- Lines that can be read are read one after the other, up to the lines after them. -/
lemma many_read_lines (hread : List.Forall₂ (fun line f => IsRead line (some f)) lines found)
    (hlines : Lines (lines ++ more) document) : ∃ rest, Lines more rest ∧
      many Line.read document = (found ++ (many Line.read rest).1, (many Line.read rest).2) := by
  induction hread generalizing document with
  | nil => exact ⟨document, hlines, rfl⟩
  | @cons line f lines found hline _ ih =>
    cases hlines with
    | @cons _ _ tail next hbreak hnext =>
      obtain ⟨rest, hmore, hmany⟩ := ih hnext
      obtain ⟨c, cs, rfl, -⟩ := hline.starts
      have hread := hline.read tail next hbreak
      have hlt : next.length < (c :: cs ++ tail).length := by
        have := hbreak.length_le
        simp only [List.length_append, List.length_cons]
        omega
      exact ⟨rest, hmore, by rw [many_of_some hread hlt, hmany]; rfl⟩

lemma skipMark_of_isRead {line : List Char} {f : Option Line} (hline : IsRead line f)
    (hlines : Lines (line :: more) document) : skipMark document = document := by
  obtain ⟨c, cs, rfl, hc⟩ := hline.starts
  cases hlines
  exact skipMark_of_ne hc

lemma many_read_of_lines (hread : List.Forall₂ (fun line f => IsRead line (some f)) lines found)
    (hlines : Lines lines document) : many Line.read (skipMark document) = (found, []) := by
  obtain ⟨rest, hrest, hmany⟩ := many_read_lines hread (lines.append_nil.symm ▸ hlines)
  cases hrest
  have hmark : skipMark document = document := by
    cases hread with
    | nil => cases hlines; rfl
    | cons hline => exact skipMark_of_isRead hline hlines
  rw [hmark, hmany, many_of_none rfl, List.append_nil]

/-- A line that cannot be read stops the reading of its document. -/
lemma parse_of_unreadable {text : String}
    (hread : List.Forall₂ (fun line f => IsRead line (some f)) lines found)
    {bad : List Char} (hbad : IsRead bad none) (hlines : Lines (lines ++ bad :: more) text.toList) :
    parse text = none := by
  obtain ⟨rest, hrest, hmany⟩ := many_read_lines hread hlines
  have hmark : skipMark text.toList = text.toList := by
    cases hread with
    | nil => exact skipMark_of_isRead hbad hlines
    | cons hline => exact skipMark_of_isRead hline hlines
  obtain ⟨c, cs, rfl, -⟩ := hbad.starts
  cases hrest with
  | @cons _ _ tail next hbreak =>
    have hnone : many Line.read (c :: cs ++ tail) = ([], c :: cs ++ tail) :=
      many_of_none (hbad.read tail next hbreak)
    rw [parse, hmark, hmany, hnone]
    rfl

end Documents

/-! ### Entries -/

/-- A line that gives its key a value, with the entry that comes of it. -/
def Assigns (line : List Char) (entry : String × Value) : Prop :=
  ∃ name text, line = assignment name text ∧ entry.1 = String.ofList name ∧ IsBareName name ∧
    Stands text (some entry.2)

def entryPair (entry : String × Value) : Key × Value := (⟨[], entry.1⟩, entry.2)

def entryLine (entry : String × Value) : Line := .pair ⟨[], entry.1⟩ entry.2

lemma Assigns.isRead {line : List Char} {entry : String × Value} (h : Assigns line entry) :
    IsRead line (some (entryLine entry)) := by
  obtain ⟨name, text, rfl, hkey, hname, hstands⟩ := h
  rw [entryLine, hkey]
  exact isRead_assignment hname hstands

section Entries
variable {entries : List (String × Value)}

lemma isRead_of_assigns {lines : List (List Char)} (h : List.Forall₂ Assigns lines entries) :
    List.Forall₂ (fun line f => IsRead line (some f)) lines (entries.map entryLine) :=
  List.forall₂_map_right_iff.mpr (h.imp fun _ _ => Assigns.isRead)

lemma sections_entryLines (entries : List (String × Value)) :
    sections (entries.map entryLine) = (entries.map entryPair, []) := by
  induction entries with
  | nil => rfl
  | cons entry entries ih => rw [List.map_cons, entryLine, sections, ih]; rfl

/-- Pairs with keys that are new are all added, in their sequence. -/
lemma insertPairs_of_distinct (before : Entries)
    (hdistinct : (before.map Prod.fst ++ entries.map Prod.fst).Nodup) :
    insertPairs before (entries.map entryPair) =
      some (before ++ entries.map fun entry => (entry.1, .leaf entry.2)) := by
  induction entries generalizing before with
  | nil => simp [insertPairs]
  | cons entry entries ih =>
    have hnew : entry.1 ∉ before.map Prod.fst := fun hmem =>
      (List.nodup_append.mp hdistinct).2.2 _ hmem _ (by simp) rfl
    have hfind : before.find? entry.1 = none := List.lookup_eq_none_iff.mpr fun found hfound => by
      simpa using fun heq => hnew (List.mem_map.mpr ⟨found, hfound, heq.symm⟩)
    have hinsert : before.insertPair [] entry.1 entry.2 =
        some (before.append entry.1 (.leaf entry.2)) := by
      simp [Entries.insertPair, Entries.editAt, Entries.insertNew, hfind]
    have hnext := ih (before.append entry.1 (.leaf entry.2))
      (by simpa [Entries.append] using hdistinct)
    rw [insertPairs] at hnext ⊢
    rw [List.map_cons, List.foldlM_cons, entryPair, hinsert, Option.bind_eq_bind, Option.bind_some,
      hnext]
    simp [Entries.append]

lemma ofLines_entryLines (hdistinct : (entries.map Prod.fst).Nodup) :
    (ofLines (entries.map entryLine)).map entryValues = some entries := by
  have hleaf : (fun entry => (entry.1, entry.2.value)) ∘
      (fun entry : String × Value => (entry.1, Node.leaf entry.2)) = id :=
    funext fun entry => by simp [Node.value]
  rw [ofLines, sections_entryLines]
  simp only [insertPairs_of_distinct [] hdistinct, Option.bind_eq_bind, Option.bind_some]
  simp [entryValues_eq_map, hleaf]

/-- A document of such lines with distinct keys is parsed to their entries. -/
theorem parse_of_assigns {lines : List (List Char)} {text : String}
    (h : List.Forall₂ Assigns lines entries) (hdistinct : (entries.map Prod.fst).Nodup)
    (hlines : Lines lines text.toList) : parse text = some entries := by
  rw [parse, many_read_of_lines (isRead_of_assigns h) hlines]
  exact ofLines_entryLines hdistinct

/-- A document with a key whose value is none cannot be parsed. -/
theorem parse_of_unassigned {lines more : List (List Char)} {name value : List Char} {text : String}
    (h : List.Forall₂ Assigns lines entries) (hname : IsBareName name) (hbad : Stands value none)
    (hlines : Lines (lines ++ assignment name value :: more) text.toList) : parse text = none :=
  parse_of_unreadable (isRead_of_assigns h) (isRead_assignment hname hbad) hlines

end Entries

end BytePool.Toml
