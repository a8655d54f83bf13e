import BytePool.Proofs.Session.Atomic
import BytePool.Proofs.Toml.Keys
import BytePool.Settings.Document

/-!
# Reading settings

A table is read if every entry of it is a setting with a value of its kind, and the settings are
then what the entries say, whatever their sequence. Only after that a slab capacity of zero is
refused, so whatever is read makes a pool.
-/
namespace BytePool.Settings

/-- The entries of a document. -/
abbrev Table := List (String × Toml.Value)

/-- The settings of the table that a document was parsed to, if it was. -/
def ofTable : Option Table → Except Error Settings
  | none => .error (malformed none)
  | some entries =>
    match ofEntries entries with
    | .error problem => .error (malformed (some problem))
    | .ok settings => settings.validate.map fun _ => settings

/-- An entry is no setting, or has no value of the right kind. -/
def Malformed (entries : Table) : Prop :=
  (∃ key value, (key, value) ∈ entries ∧ key ≠ "default_order" ∧ key ≠ "slab_capacity") ∨
    (∃ value, ("default_order", value) ∈ entries ∧
      ¬∃ text order, value = .string text ∧ ByteOrder.parse text = .ok order) ∨
    ∃ value, ("slab_capacity", value) ∈ entries ∧ ¬∃ n : Nat, value = .integer n

/-- The settings that entries give, and the standard ones where they give none. -/
structure Given (entries : Table) (settings : Settings) : Prop where
  order_eq : ∀ text order, ("default_order", .string text) ∈ entries →
    ByteOrder.parse text = .ok order → settings.defaultOrder = order
  order_of_absent : (∀ value, ("default_order", value) ∉ entries) → settings.defaultOrder = .big
  capacity_eq : ∀ n : Nat, ("slab_capacity", .integer n) ∈ entries → settings.slabCapacity = n
  capacity_of_absent : (∀ value, ("slab_capacity", value) ∉ entries) →
    settings.slabCapacity = 1048576

/-! ### One entry -/

/-- An entry that is a setting with a value of its kind. -/
def Fits (entry : String × Toml.Value) : Prop :=
  (entry.1 = "default_order" ∧
      ∃ text order, entry.2 = .string text ∧ ByteOrder.parse text = .ok order) ∨
    entry.1 = "slab_capacity" ∧ ∃ n : Nat, entry.2 = .integer n

lemma order_ne_capacity : "default_order" ≠ "slab_capacity" := by decide

lemma Field.key_of_ofKey? {key : String} {field : Field} (h : ofKey? key = some field) :
    key = field.key := by
  have hfound := List.find?_some h
  exact (of_decide_eq_true hfound).symm

section Entry
variable (settings : Settings)

lemma withEntry_order {text : String} {order : ByteOrder} (h : ByteOrder.parse text = .ok order) :
    settings.withEntry "default_order" (.string text) =
      .ok { settings with defaultOrder := order } := by
  unfold withEntry
  rw [show Field.ofKey? "default_order" = _ from Field.ofKey?_key .defaultOrder]
  simp only [h]

lemma withEntry_capacity (n : Nat) :
    settings.withEntry "slab_capacity" (.integer n) = .ok { settings with slabCapacity := n } := by
  unfold withEntry
  rw [show Field.ofKey? "slab_capacity" = _ from Field.ofKey?_key .slabCapacity]
  exact if_neg (Int.not_lt.mpr (Int.natCast_nonneg n))

lemma withEntry_of_not_fits {key : String} {value : Toml.Value} (h : ¬Fits (key, value)) :
    ∃ problem, settings.withEntry key value = .error problem := by
  unfold withEntry
  split
  case h_1 => exact ⟨_, rfl⟩
  case h_2 text hkey =>
    obtain rfl := Field.key_of_ofKey? hkey
    split
    case h_1 order horder => exact absurd (.inl ⟨rfl, text, order, rfl, horder⟩) h
    case h_2 => exact ⟨_, rfl⟩
  case h_3 number hkey =>
    obtain rfl := Field.key_of_ofKey? hkey
    split
    case isTrue => exact ⟨_, rfl⟩
    case isFalse hle =>
      obtain ⟨n, rfl⟩ := Int.eq_ofNat_of_zero_le (Int.not_lt.mp hle)
      exact absurd (.inr ⟨rfl, n, rfl⟩) h
  case h_4 => exact ⟨_, rfl⟩

end Entry

/-! ### All entries -/

section Entries
variable {entries : Table}

lemma malformed_iff : Malformed entries ↔ ∃ entry ∈ entries, ¬Fits entry := by
  constructor
  · rintro (⟨key, value, hmem, horder, hcapacity⟩ | ⟨value, hmem, hbad⟩ | ⟨value, hmem, hbad⟩)
    · exact ⟨_, hmem, fun hfits => hfits.elim (horder ·.1) (hcapacity ·.1)⟩
    · exact ⟨_, hmem, fun hfits => hfits.elim (hbad ·.2) fun h => order_ne_capacity h.1⟩
    · exact ⟨_, hmem, fun hfits => hfits.elim (fun h => order_ne_capacity h.1.symm) (hbad ·.2)⟩
  · rintro ⟨⟨key, value⟩, hmem, hbad⟩
    by_cases horder : key = "default_order"
    · obtain rfl := horder
      exact .inr (.inl ⟨value, hmem, fun h => hbad (.inl ⟨rfl, h⟩)⟩)
    by_cases hcapacity : key = "slab_capacity"
    · obtain rfl := hcapacity
      exact .inr (.inr ⟨value, hmem, fun h => hbad (.inr ⟨rfl, h⟩)⟩)
    · exact .inl ⟨key, value, hmem, horder, hcapacity⟩

lemma fits_of_not_malformed (h : ¬Malformed entries) : ∀ entry ∈ entries, Fits entry := by
  rw [malformed_iff] at h
  exact fun entry hmem => by_contra fun hbad => h ⟨entry, hmem, hbad⟩

/-- One bad entry is enough, wherever it stands. -/
lemma ofEntries_of_malformed (h : Malformed entries) :
    ∃ problem, ofEntries entries = .error problem := by
  obtain ⟨bad, hmem, hbad⟩ := malformed_iff.mp h
  clear h
  unfold ofEntries
  generalize standard = settings
  induction entries generalizing settings with
  | nil => cases hmem
  | cons entry entries ih =>
    rw [List.foldlM_cons]
    cases hentry : settings.withEntry entry.1 entry.2 with
    | error problem => exact ⟨problem, rfl⟩
    | ok next =>
      obtain rfl | hrest := List.mem_cons.mp hmem
      · obtain ⟨problem, herror⟩ := settings.withEntry_of_not_fits hbad
        cases hentry.symm.trans herror
      · exact ih hrest next

/-- A key that was not named before has the value that it is named with. -/
lemma Given.append {settings : Settings} (h : Given entries settings) {entry : String × Toml.Value}
    (hfits : Fits entry) (hnew : entry.1 ∉ entries.map Prod.fst) :
    ∃ settings', settings.withEntry entry.1 entry.2 = .ok settings' ∧
      Given (entries ++ [entry]) settings' := by
  have hother (value : Toml.Value) : (entry.1, value) ∉ entries :=
    fun hmem => hnew (List.mem_map.mpr ⟨_, hmem, rfl⟩)
  obtain ⟨key, value⟩ := entry
  obtain ⟨rfl, text, order, rfl, horder⟩ | ⟨rfl, n, rfl⟩ := hfits
  · refine ⟨_, settings.withEntry_order horder, ?_⟩
    constructor
    case order_eq =>
      intro text' order' hmem horder'
      obtain hmem | hmem := List.mem_append.mp hmem
      · exact absurd hmem (hother _)
      · obtain rfl : text' = text := by simpa using hmem
        exact Except.ok.inj (horder.symm.trans horder')
    case order_of_absent => exact fun habsent => absurd (by simp) (habsent (.string text))
    case capacity_eq => exact fun n hmem => h.capacity_eq n (by simpa using hmem)
    case capacity_of_absent =>
      exact fun habsent => h.capacity_of_absent fun value hmem => habsent value (by simp [hmem])
  · refine ⟨_, settings.withEntry_capacity n, ?_⟩
    constructor
    case order_eq => exact fun text order hmem => h.order_eq text order (by simpa using hmem)
    case order_of_absent =>
      exact fun habsent => h.order_of_absent fun value hmem => habsent value (by simp [hmem])
    case capacity_eq =>
      intro n' hmem
      obtain hmem | hmem := List.mem_append.mp hmem
      · exact absurd hmem (hother _)
      · obtain rfl : n' = n := by simpa using hmem
        rfl
    case capacity_of_absent => exact fun habsent => absurd (by simp) (habsent (.integer n))

lemma ofEntries_given (hfits : ∀ entry ∈ entries, Fits entry)
    (hdistinct : (entries.map Prod.fst).Nodup) :
    ∃ settings, ofEntries entries = .ok settings ∧ Given entries settings := by
  induction entries using List.reverseRecOn with
  | nil => exact ⟨standard, rfl, nofun, fun _ => rfl, nofun, fun _ => rfl⟩
  | append_singleton entries entry ih =>
    obtain ⟨hfirst, hentry⟩ := List.forall_mem_append.mp hfits
    rw [List.map_append, List.nodup_append] at hdistinct
    obtain ⟨hkeys, -, hapart⟩ := hdistinct
    obtain ⟨settings, heq, hgiven⟩ := ih hfirst hkeys
    obtain ⟨settings', heq', hgiven'⟩ := hgiven.append (hentry entry (List.mem_singleton_self _))
      fun hmem => hapart _ hmem _ (by simp) rfl
    refine ⟨settings', ?_, hgiven'⟩
    rw [ofEntries, List.foldlM_append, ← ofEntries, heq]
    simp [bind, Except.bind, heq', pure, Except.pure]

/-! Entries that are all settings leave nothing open. -/

section Fitting
variable (hfits : ∀ entry ∈ entries, Fits entry)
include hfits

lemma order_cases : (∀ value, ("default_order", value) ∉ entries) ∨
    ∃ text order, ("default_order", .string text) ∈ entries ∧ ByteOrder.parse text = .ok order := by
  by_contra! h
  obtain ⟨⟨value, hmem⟩, hnone⟩ := h
  obtain ⟨-, text, order, rfl, horder⟩ | ⟨hkey, -⟩ := hfits _ hmem
  · exact hnone text order hmem horder
  · exact order_ne_capacity hkey

lemma capacity_cases : (∀ value, ("slab_capacity", value) ∉ entries) ∨
    ∃ n : Nat, ("slab_capacity", .integer n) ∈ entries := by
  by_contra! h
  obtain ⟨⟨value, hmem⟩, hnone⟩ := h
  obtain ⟨hkey, -⟩ | ⟨-, n, rfl⟩ := hfits _ hmem
  · exact order_ne_capacity hkey.symm
  · exact hnone n hmem

lemma Given.unique {settings settings' : Settings} (h : Given entries settings)
    (h' : Given entries settings') : settings = settings' := by
  have horder : settings.defaultOrder = settings'.defaultOrder := by
    obtain habsent | ⟨text, order, hmem, ho⟩ := order_cases hfits
    · rw [h.order_of_absent habsent, h'.order_of_absent habsent]
    · rw [h.order_eq text order hmem ho, h'.order_eq text order hmem ho]
  have hcapacity : settings.slabCapacity = settings'.slabCapacity := by
    obtain habsent | ⟨n, hmem⟩ := capacity_cases hfits
    · rw [h.capacity_of_absent habsent, h'.capacity_of_absent habsent]
    · rw [h.capacity_eq n hmem, h'.capacity_eq n hmem]
  obtain ⟨order, capacity⟩ := settings
  obtain rfl : order = settings'.defaultOrder := horder
  obtain rfl : capacity = settings'.slabCapacity := hcapacity
  rfl

lemma Given.slabCapacity_eq_zero_iff {settings : Settings} (h : Given entries settings) :
    settings.slabCapacity = 0 ↔ ("slab_capacity", .integer 0) ∈ entries := by
  refine ⟨fun hzero => ?_, fun hmem => h.capacity_eq 0 hmem⟩
  obtain habsent | ⟨n, hmem⟩ := capacity_cases hfits
  · cases (h.capacity_of_absent habsent).symm.trans hzero
  · obtain rfl : n = 0 := (h.capacity_eq n hmem).symm.trans hzero
    exact hmem

end Fitting

lemma Given.of_perm {entries' : Table} {settings : Settings} (h : Given entries settings)
    (hperm : entries.Perm entries') : Given entries' settings where
  order_eq text order hmem := h.order_eq text order (hperm.mem_iff.mpr hmem)
  order_of_absent habsent :=
    h.order_of_absent fun value hmem => habsent value (hperm.mem_iff.mp hmem)
  capacity_eq n hmem := h.capacity_eq n (hperm.mem_iff.mpr hmem)
  capacity_of_absent habsent :=
    h.capacity_of_absent fun value hmem => habsent value (hperm.mem_iff.mp hmem)

lemma Malformed.of_perm {entries' : Table} (h : Malformed entries) (hperm : entries.Perm entries') :
    Malformed entries' := by
  obtain ⟨entry, hmem, hbad⟩ := malformed_iff.mp h
  exact malformed_iff.mpr ⟨entry, hperm.mem_iff.mp hmem, hbad⟩

end Entries

/-! ### Documents -/

/-- A parser that refuses a text or finds a table in it that names each of its keys once. -/
def DistinctKeys (parse : String → Option Table) : Prop :=
  ∀ document entries, parse document = some entries → (entries.map Prod.fst).Nodup

/-- The argument that a refusal names. -/
def RefusedFor (argument : String) (result : Except Error Settings) : Prop :=
  ∃ reason, result = .error (.invalidArgument argument reason)

/-- The same settings, or refusals for the same argument. -/
def Alike (result result' : Except Error Settings) : Prop :=
  (∃ settings, result = .ok settings ∧ result' = .ok settings) ∨
    ∃ argument, RefusedFor argument result ∧ RefusedFor argument result'

/-- What the settings of a table are, or what it is refused for. -/
structure Reads (table : Option Table) (result : Except Error Settings) : Prop where
  config_iff : RefusedFor "config" result ↔
    table = none ∨ ∃ entries, table = some entries ∧ Malformed entries
  capacity_iff : ∀ entries, table = some entries → ¬Malformed entries →
    (RefusedFor "slab_capacity" result ↔ ("slab_capacity", .integer 0) ∈ entries)
  given : ∀ entries, table = some entries → ¬Malformed entries →
    ("slab_capacity", .integer 0) ∉ entries →
    ∃ settings, result = .ok settings ∧ Given entries settings
  /-- All that is read makes a pool and a registry. -/
  accepted : ∀ settings, result = .ok settings → settings.validate = .ok () ∧
    Pool.ofSettings settings = .ok (.fresh settings.defaultOrder settings.slabCapacity) ∧
    ∀ heap, ∃ made, Registry.ofSettings heap settings = .ok made

lemma RefusedFor.argument_eq {argument argument' : String} {result : Except Error Settings}
    (h : RefusedFor argument result) (h' : RefusedFor argument' result) : argument = argument' := by
  obtain ⟨reason, rfl⟩ := h
  obtain ⟨reason', heq⟩ := h'
  cases heq
  rfl

lemma RefusedFor.ne_ok {argument : String} {result : Except Error Settings}
    (h : RefusedFor argument result) (settings : Settings) : result ≠ .ok settings := by
  obtain ⟨reason, rfl⟩ := h
  exact nofun

lemma accepted_of_validate {settings : Settings} (h : settings.validate = .ok ()) :
    Pool.ofSettings settings = .ok (.fresh settings.defaultOrder settings.slabCapacity) ∧
      ∀ heap, ∃ made, Registry.ofSettings heap settings = .ok made := by
  have hpos := settings.validate_eq_ok_iff.mp h
  refine ⟨by rw [Pool.ofSettings_eq, if_neg hpos.ne'], fun heap => ?_⟩
  rw [Registry.ofSettings_eq, if_neg hpos.ne']
  exact ⟨_, rfl⟩

namespace Reads
variable {entries : Table} {result : Except Error Settings}

lemma of_config {table : Option Table} (h : RefusedFor "config" result)
    (hbad : table = none ∨ ∃ entries, table = some entries ∧ Malformed entries) :
    Reads table result := by
  have hmalformed (entries : Table) (heq : table = some entries) : Malformed entries := by
    obtain hnone | ⟨entries', heq', hmalformed⟩ := hbad
    · cases heq.symm.trans hnone
    · rwa [Option.some.inj (heq.symm.trans heq')]
  exact
    { config_iff := iff_of_true h hbad
      capacity_iff := fun entries heq hgood => absurd (hmalformed entries heq) hgood
      given := fun entries heq hgood => absurd (hmalformed entries heq) hgood
      accepted := fun settings heq => absurd heq (h.ne_ok settings) }

lemma of_capacity (h : RefusedFor "slab_capacity" result) (hgood : ¬Malformed entries)
    (hzero : ("slab_capacity", .integer 0) ∈ entries) : Reads (some entries) result where
  config_iff := by
    refine iff_of_false (fun h' => absurd (h.argument_eq h') (by decide)) ?_
    simpa using hgood
  capacity_iff entries' heq _ := by
    obtain rfl := Option.some.inj heq
    exact iff_of_true h hzero
  given entries' heq _ hnonzero := by
    obtain rfl := Option.some.inj heq
    exact absurd hzero hnonzero
  accepted settings heq := absurd heq (h.ne_ok settings)

lemma of_ok {settings : Settings} (hvalid : settings.validate = .ok ()) (hgood : ¬Malformed entries)
    (hnonzero : ("slab_capacity", .integer 0) ∉ entries) (hgiven : Given entries settings) :
    Reads (some entries) (.ok settings) where
  config_iff := iff_of_false (fun h => h.ne_ok settings rfl) (by simpa using hgood)
  capacity_iff entries' heq _ := by
    obtain rfl := Option.some.inj heq
    exact iff_of_false (fun h => h.ne_ok settings rfl) hnonzero
  given entries' heq _ _ := by
    obtain rfl := Option.some.inj heq
    exact ⟨settings, rfl, hgiven⟩
  accepted settings' heq := by
    obtain rfl := Except.ok.inj heq
    exact ⟨hvalid, accepted_of_validate hvalid⟩

/-- The sequence of the entries makes no difference. -/
lemma alike {entries' : Table} {result' : Except Error Settings} (h : Reads (some entries) result)
    (h' : Reads (some entries') result') (hperm : entries.Perm entries') :
    Alike result result' := by
  by_cases hbad : Malformed entries
  · exact .inr ⟨_, h.config_iff.mpr (.inr ⟨_, rfl, hbad⟩),
      h'.config_iff.mpr (.inr ⟨_, rfl, hbad.of_perm hperm⟩)⟩
  have hgood : ¬Malformed entries' := fun hbad' => hbad (hbad'.of_perm hperm.symm)
  by_cases hzero : ("slab_capacity", .integer 0) ∈ entries
  · exact .inr ⟨_, (h.capacity_iff _ rfl hbad).mpr hzero,
      (h'.capacity_iff _ rfl hgood).mpr (hperm.mem_iff.mp hzero)⟩
  · obtain ⟨settings, rfl, hgiven⟩ := h.given _ rfl hbad hzero
    obtain ⟨settings', rfl, hgiven'⟩ :=
      h'.given _ rfl hgood fun hmem => hzero (hperm.mem_iff.mpr hmem)
    obtain rfl := (hgiven.of_perm hperm).unique (fits_of_not_malformed hgood) hgiven'
    exact .inl ⟨settings, rfl, rfl⟩

end Reads

/-- A table is refused as a whole, or for a slab capacity of zero, or it gives its settings. -/
theorem reads_ofTable {table : Option Table}
    (hdistinct : ∀ entries, table = some entries → (entries.map Prod.fst).Nodup) :
    Reads table (ofTable table) := by
  cases table with
  | none => exact .of_config ⟨_, rfl⟩ (.inl rfl)
  | some entries =>
    by_cases hbad : Malformed entries
    · obtain ⟨problem, herror⟩ := ofEntries_of_malformed hbad
      have hrefused : RefusedFor "config" (ofTable (some entries)) := by
        rw [ofTable, herror]
        exact ⟨_, rfl⟩
      exact .of_config hrefused (.inr ⟨entries, rfl, hbad⟩)
    · have hfits := fits_of_not_malformed hbad
      obtain ⟨settings, heq, hgiven⟩ := ofEntries_given hfits (hdistinct entries rfl)
      have hzero := hgiven.slabCapacity_eq_zero_iff hfits
      by_cases hcapacity : settings.slabCapacity = 0
      · have hrefused : RefusedFor "slab_capacity" (ofTable (some entries)) := by
          rw [ofTable, heq]
          simp only [validate, if_pos hcapacity]
          exact ⟨_, rfl⟩
        exact .of_capacity hrefused hbad (hzero.mp hcapacity)
      · have hvalid : settings.validate = .ok () := if_neg hcapacity
        have hok : ofTable (some entries) = .ok settings := by
          rw [ofTable, heq]
          simp only [hvalid]
          rfl
        rw [hok]
        exact .of_ok hvalid hbad (fun hmem => hcapacity (hzero.mpr hmem)) hgiven

/-- With any parser that finds distinct keys, a document is refused as a whole, or for a slab
capacity of zero, or it gives its settings, and the sequence of its entries makes no difference. The
documents of pools are read so, with such a parser. -/
theorem reads_of_distinctKeys {parse : String → Option Table} (hparse : DistinctKeys parse) :
    (∀ document, Reads (parse document) (ofTable (parse document))) ∧
      (∀ document document' entries entries', parse document = some entries →
        parse document' = some entries' → entries.Perm entries' →
        Alike (ofTable (parse document)) (ofTable (parse document'))) ∧
      DistinctKeys Toml.parse ∧ ∀ document, ofToml document = ofTable (Toml.parse document) := by
  have hreads (document : String) := reads_ofTable (hparse document)
  refine ⟨hreads, fun document document' entries entries' heq heq' hperm => ?_,
    fun _ _ => Toml.nodup_of_parse, fun _ => rfl⟩
  have h := hreads document
  have h' := hreads document'
  rw [heq] at h ⊢
  rw [heq'] at h' ⊢
  exact h.alike h' hperm

/-- A document that gives the capacity alone, and one where an unknown key outweighs a capacity of
zero. -/
theorem reads_of_distinctKeys_of_two :
    DistinctKeys Toml.parse ∧
      (∃ settings, ofToml "slab_capacity = 8" = .ok settings ∧ settings.slabCapacity = 8 ∧
        settings.defaultOrder = .big) ∧
      RefusedFor "config" (ofToml "slab_capacity = 0\nsize = 1") := by
  have hparse : DistinctKeys Toml.parse := fun _ _ => Toml.nodup_of_parse
  obtain ⟨hreads, -, -, htoml⟩ := reads_of_distinctKeys hparse
  have hone : Toml.parse "slab_capacity = 8" = some [("slab_capacity", .integer 8)] := by cbv
  have htwo : Toml.parse "slab_capacity = 0\nsize = 1" =
      some [("slab_capacity", .integer 0), ("size", .integer 1)] := by cbv
  refine ⟨hparse, ?_, ?_⟩
  · have hfits : Fits ("slab_capacity", .integer 8) := .inr ⟨rfl, 8, rfl⟩
    have hgood : ¬Malformed [("slab_capacity", .integer 8)] := by simpa [malformed_iff] using hfits
    obtain ⟨settings, heq, hgiven⟩ := (hreads _).given _ hone hgood (by simp)
    exact ⟨settings, heq, hgiven.capacity_eq 8 (by simp), hgiven.order_of_absent (by simp)⟩
  · exact (hreads _).config_iff.mpr (.inr ⟨_, htwo, .inl ⟨"size", .integer 1, by simp⟩⟩)

end BytePool.Settings
