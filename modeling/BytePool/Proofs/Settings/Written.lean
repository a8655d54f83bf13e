import BytePool.Proofs.Settings.Reading
import BytePool.Proofs.Settings.Spelling
import BytePool.Proofs.Toml.Writing
import BytePool.Session.Command

/-!
# Settings written in documents

Whatever settings are written in a document, in plain spellings and decimal digits, are read back
from it, and the pool and the registry of the document are those of the settings. Only capacities
beyond 64 signed bits cannot be written, although a pool can be made with them. This is so with any
parser that finds the same entries in a document, whatever it does beside.
-/
namespace BytePool.Settings

/-! ### Writing -/

/-- The line that names an order by one of its spellings. -/
def orderLine (spelling : String) : String := "default_order = \"" ++ spelling ++ "\""

def capacityLine (n : Nat) : String := "slab_capacity = " ++ toString n

/-- A text of letters, dashes, underscores, spaces and tabs. -/
def IsLettered (text : String) : Prop :=
  ∀ c ∈ text.toList, c.isAlpha = true ∨ c ∈ ['-', '_', ' ', '\t']

instance (text : String) : Decidable (IsLettered text) :=
  decidable_of_iff (text.toList.all fun c => c.isAlpha || ['-', '_', ' ', '\t'].contains c)
    (by simp [IsLettered])

/-- These lines and no more stand in the document, in this sequence. -/
def Writes (lines : List String) (document : String) : Prop :=
  Toml.Lines (lines.map String.toList) document.toList

/-! ### Reading back -/

section Lines
variable {spelling document : String} {order : ByteOrder} {n : Nat}

lemma isPlain_of_isLettered (h : IsLettered spelling) : ∀ c ∈ spelling.toList, Toml.IsPlain c := by
  intro c hc
  obtain halpha | hmark := h c hc
  · have hne (d : Char) (hd : d.isAlpha = false) : c ≠ d := by
      rintro rfl
      exact absurd halpha (by simp [hd])
    refine ⟨?_, hne _ (by decide), hne _ (by decide)⟩
    have hrange : 65 ≤ c.toNat ∧ c.toNat ≤ 122 := by
      simp only [Char.isAlpha, Char.isUpper, Char.isLower, Bool.or_eq_true, Bool.and_eq_true,
        decide_eq_true_eq, ge_iff_le, UInt32.le_iff_toNat_le] at halpha
      change 65 ≤ c.toNat ∧ c.toNat ≤ 90 ∨ 97 ≤ c.toNat ∧ c.toNat ≤ 122 at halpha
      omega
    simp only [Toml.isAllowed, Bool.or_eq_true, Bool.and_eq_true, decide_eq_true_eq]
    omega
  · obtain rfl | rfl | rfl | rfl := by simpa using hmark
    all_goals exact ⟨by decide, by decide, by decide⟩

lemma toList_between (before text after : String) :
    (before ++ text ++ after).toList = before.toList ++ (text.toList ++ after.toList) := by
  rw [String.toList_append, String.toList_append, List.append_assoc]

lemma toList_orderLine (spelling : String) : (orderLine spelling).toList =
    Toml.assignment "default_order".toList ('"' :: (spelling.toList ++ ['"'])) :=
  (toList_between ..).trans rfl

lemma toList_capacityLine (n : Nat) : (capacityLine n).toList =
    Toml.assignment "slab_capacity".toList (Nat.toDigits 10 n) :=
  calc (capacityLine n).toList
      = "slab_capacity = ".toList ++ n.repr.toList := String.toList_append
    _ = "slab_capacity = ".toList ++ Nat.toDigits 10 n := congrArg _ Nat.toList_repr

lemma isBareName_slabCapacity : Toml.IsBareName "slab_capacity".toList :=
  ⟨by decide, List.all_eq_true.mp (by decide)⟩

lemma assigns_orderLine (h : IsLettered spelling) :
    Toml.Assigns (orderLine spelling).toList ("default_order", .string spelling) := by
  have hstands := Toml.stands_quoted (isPlain_of_isLettered h)
  rw [String.ofList_toList] at hstands
  exact ⟨_, _, toList_orderLine spelling, String.ofList_toList.symm,
    ⟨by decide, List.all_eq_true.mp (by decide)⟩, hstands⟩

lemma assigns_capacityLine (hn : n < 2 ^ 63) :
    Toml.Assigns (capacityLine n).toList ("slab_capacity", .integer n) := by
  have hstands := Toml.stands_toDigits n
  rw [if_pos hn] at hstands
  exact ⟨_, _, toList_capacityLine n, String.ofList_toList.symm, isBareName_slabCapacity, hstands⟩

/-- Lines for distinct keys give the settings of their entries as long as some capacity is left. -/
lemma ofToml_of_assigns {lines : List String} {entries : Table} {settings : Settings}
    (hlines : List.Forall₂ (fun line entry => Toml.Assigns line.toList entry) lines entries)
    (hdistinct : (entries.map Prod.fst).Nodup) (hdocument : Writes lines document)
    (hentries : ofEntries entries = .ok settings) (hpos : 0 < settings.slabCapacity) :
    ofToml document = .ok settings := by
  have hparse := Toml.parse_of_assigns (List.forall₂_map_left_iff.mpr hlines) hdistinct hdocument
  have hvalid := settings.validate_eq_ok_iff.mpr hpos
  simp only [ofToml, hparse, hentries, hvalid]
  rfl

lemma ofToml_of_order (horder : ByteOrder.parse spelling = .ok order)
    (hletters : IsLettered spelling) (hdocument : Writes [orderLine spelling] document) :
    ofToml document = .ok ⟨order, 1048576⟩ := by
  have hline := assigns_orderLine hletters
  refine ofToml_of_assigns (.cons hline .nil) (by simp) hdocument ?_ (by simp)
  simp only [ofEntries, List.foldlM_cons, withEntry_order _ horder]
  rfl

lemma ofToml_of_capacity (hpos : 0 < n) (hn : n < 2 ^ 63)
    (hdocument : Writes [capacityLine n] document) : ofToml document = .ok ⟨.big, n⟩ := by
  have hline := assigns_capacityLine hn
  refine ofToml_of_assigns (.cons hline .nil) (by simp) hdocument ?_ hpos
  simp only [ofEntries, List.foldlM_cons, withEntry_capacity]
  rfl

lemma ofToml_of_both (horder : ByteOrder.parse spelling = .ok order)
    (hletters : IsLettered spelling) (hpos : 0 < n) (hn : n < 2 ^ 63)
    (hdocument : Writes [orderLine spelling, capacityLine n] document ∨
      Writes [capacityLine n, orderLine spelling] document) :
    ofToml document = .ok ⟨order, n⟩ := by
  have hfirst := assigns_orderLine hletters
  have hsecond := assigns_capacityLine hn
  obtain hdocument | hdocument := hdocument
  · refine ofToml_of_assigns (.cons hfirst (.cons hsecond .nil)) (by simp) hdocument ?_ hpos
    simp only [ofEntries, List.foldlM_cons, withEntry_order _ horder, withEntry_capacity]
    rfl
  · refine ofToml_of_assigns (.cons hsecond (.cons hfirst .nil)) (by simp) hdocument ?_ hpos
    simp only [ofEntries, List.foldlM_cons, withEntry_order _ horder, withEntry_capacity]
    rfl

/-- A capacity that cannot be read spoils its document, whatever is written before and after. -/
lemma refusedFor_of_capacity (hn : 2 ^ 63 ≤ n) (hletters : IsLettered spelling)
    (hdocument : Writes [orderLine spelling, capacityLine n] document ∨
      Writes [capacityLine n, orderLine spelling] document ∨ Writes [capacityLine n] document) :
    RefusedFor "config" (ofToml document) := by
  have hstands := Toml.stands_toDigits n
  rw [if_neg (by omega)] at hstands
  have hnone : Toml.parse document = none := by
    simp only [Writes, List.map_cons, toList_capacityLine] at hdocument
    obtain hdocument | hdocument | hdocument := hdocument
    · exact Toml.parse_of_unassigned (.cons (assigns_orderLine hletters) .nil)
        isBareName_slabCapacity hstands hdocument
    · exact Toml.parse_of_unassigned .nil isBareName_slabCapacity hstands hdocument
    · exact Toml.parse_of_unassigned .nil isBareName_slabCapacity hstands hdocument
  rw [ofToml, hnone]
  exact ⟨_, rfl⟩

end Lines

/-! ### Parsers that agree -/

/-- A parser that refuses the same texts and finds the same entries in all others, in whatever
sequence. -/
structure Agrees (parse : String → Option Table) : Prop where
  none_iff : ∀ document, parse document = none ↔ Toml.parse document = none
  perm : ∀ document entries entries', parse document = some entries →
    Toml.parse document = some entries' → entries.Perm entries'

lemma agrees_parse : Agrees Toml.parse where
  none_iff _ := Iff.rfl
  perm _ _ _ h h' := .of_eq (Option.some.inj (h.symm.trans h'))

/-- Parsers that agree give the same settings, since the sequence of entries makes no difference. -/
lemma Agrees.alike {parse : String → Option Table} (h : Agrees parse) (document : String) :
    Alike (ofTable (parse document)) (ofToml document) := by
  cases htoml : Toml.parse document with
  | none =>
    rw [ofToml, htoml, (h.none_iff document).mpr htoml]
    exact .inr ⟨"config", ⟨_, rfl⟩, ⟨_, rfl⟩⟩
  | some entries' =>
    obtain ⟨entries, hparse⟩ : ∃ entries, parse document = some entries :=
      Option.ne_none_iff_exists'.mp fun hnone => by simp [(h.none_iff document).mp hnone] at htoml
    have hperm := h.perm document entries entries' hparse htoml
    have hdistinct' := Toml.nodup_of_parse htoml
    have hdistinct := (hperm.map Prod.fst).nodup_iff.mpr hdistinct'
    have hreads : Reads (some entries) (ofTable (some entries)) :=
      reads_ofTable (by rintro _ ⟨⟩; exact hdistinct)
    have hreads' : Reads (some entries') (ofTable (some entries')) :=
      reads_ofTable (by rintro _ ⟨⟩; exact hdistinct')
    rw [hparse, show ofToml document = ofTable (Toml.parse document) from rfl, htoml]
    exact hreads.alike hreads' hperm

lemma Alike.eq_ok {result result' : Except Error Settings} {settings : Settings}
    (h : Alike result result') (hok : result' = .ok settings) : result = .ok settings := by
  obtain ⟨settings', hleft, hright⟩ | ⟨argument, -, hright⟩ := h
  · rw [hleft, ← hright, hok]
  · exact absurd hok (hright.ne_ok settings)

lemma Alike.refusedFor {result result' : Except Error Settings} {argument : String}
    (h : Alike result result') (hrefused : RefusedFor argument result') :
    RefusedFor argument result := by
  obtain ⟨settings, -, hright⟩ | ⟨argument', hleft, hright⟩ := h
  · exact absurd hright (hrefused.ne_ok settings)
  · rwa [hrefused.argument_eq hright]

/-! ### Making -/

/-- What a document of some settings makes is what these settings make by themselves, with their
order and their capacity, and it cannot be told apart from it whatever is done later. -/
structure Makes (parse : String → Option Table) (document : String) (settings : Settings) : Prop
    where
  parsed_eq : ofTable (parse document) = .ok settings
  parsed_pool_eq : (ofTable (parse document)).bind Pool.ofSettings =
    .ok (.fresh settings.defaultOrder settings.slabCapacity)
  parsed_pool_turn (s : Session) (name : String) :
    s.keepPool name ((ofTable (parse document)).bind Pool.ofSettings) =
      s.step (.pool (.ofSettings settings name))
  parsed_registry_turn (s : Session) (name : String) :
    Session.RegistryCommand.keepNew s name
        ((ofTable (parse document)).bind (Registry.ofSettings s.heap)) =
      s.step (.registry (.ofSettings settings name))
  settings_eq : ofToml document = .ok settings
  pool_eq : (ofToml document).bind Pool.ofSettings =
    .ok (.fresh settings.defaultOrder settings.slabCapacity)
  pool_made (s : Session) (name : String) :
    (s.step (.pool (.ofToml document name))).outcome =
      .ok (.pool ⟨settings.defaultOrder, settings.slabCapacity⟩)
  pool_run (s : Session) (name : String) (later : List Session.Command) :
    s.run (.pool (.ofToml document name) :: later) =
      s.run (.pool (.ofSettings settings name) :: later)
  registry_made (s : Session) (name : String) :
    (s.step (.registry (.ofToml document name))).outcome =
      .ok (.registry ⟨settings.defaultOrder, settings.slabCapacity,
        ⟨settings.defaultOrder, settings.slabCapacity⟩, .ofFn (⟨·, settings.slabCapacity⟩)⟩)
  registry_run (s : Session) (name : String) (later : List Session.Command) :
    s.run (.registry (.ofToml document name) :: later) =
      s.run (.registry (.ofSettings settings name) :: later)

section Making
variable (settings : Settings)

lemma ofSettings_fresh (hpos : 0 < settings.slabCapacity) :
    Pool.ofSettings settings = .ok (.fresh settings.defaultOrder settings.slabCapacity) :=
  (accepted_of_validate (settings.validate_eq_ok_iff.mpr hpos)).1

/-- A registry of settings holds a new pool for each order. -/
lemma exists_registry (heap : Heap) (hpos : 0 < settings.slabCapacity) :
    ∃ registry heap', Registry.ofSettings heap settings = .ok (registry, heap') ∧
      registry.defaultOrder = settings.defaultOrder ∧
      ∀ order, heap'.get? (registry.get order) = some (.fresh order settings.slabCapacity) := by
  rw [Registry.ofSettings_eq, if_neg hpos.ne']
  refine ⟨_, _, rfl, rfl, fun order => ?_⟩
  cases order <;> simp [Registry.get, PerOrder.get, Heap.get?]

lemma outcome_registry (s : Session) (name : String) (hpos : 0 < settings.slabCapacity) :
    (s.step (.registry (.ofSettings settings name))).outcome =
      .ok (.registry ⟨settings.defaultOrder, settings.slabCapacity,
        ⟨settings.defaultOrder, settings.slabCapacity⟩, .ofFn (⟨·, settings.slabCapacity⟩)⟩) := by
  obtain ⟨registry, heap, hmade, hdefault, hpools⟩ := exists_registry settings s.heap hpos
  have hinfo (t : Session) (ht : t.heap = heap) : Session.RegistryInfo.of? t registry =
      some ⟨settings.defaultOrder, settings.slabCapacity,
        ⟨settings.defaultOrder, settings.slabCapacity⟩, .ofFn (⟨·, settings.slabCapacity⟩)⟩ := by
    simp only [Session.RegistryInfo.of?, Registry.preferred, PerOrder.ofFnM, ht, hdefault, hpools]
    rfl
  simp only [Session.step, Session.RegistryCommand.step, hmade, Session.RegistryCommand.keepNew,
    Session.RegistryCommand.keep, Session.ask, Session.need, Session.registryInfo?,
    Session.Names.find?_insert_self, Option.bind_eq_bind, Option.bind_some, hinfo]
  rfl

lemma makes_of_ofToml {parse : String → Option Table} (hparse : Agrees parse) {document : String}
    {settings : Settings} (hpos : 0 < settings.slabCapacity) (h : ofToml document = .ok settings) :
    Makes parse document settings := by
  have hparsed := (hparse.alike document).eq_ok h
  have hpool (s : Session) (name : String) : s.step (.pool (.ofToml document name)) =
      s.step (.pool (.ofSettings settings name)) := by
    simp only [Session.step, Session.PoolCommand.step, h]
    rfl
  have hregistry (s : Session) (name : String) : s.step (.registry (.ofToml document name)) =
      s.step (.registry (.ofSettings settings name)) := by
    simp only [Session.step, Session.RegistryCommand.step, h]
    rfl
  constructor
  case parsed_eq => exact hparsed
  case parsed_pool_eq =>
    rw [hparsed]
    exact ofSettings_fresh settings hpos
  case parsed_pool_turn | parsed_registry_turn =>
    intro s name
    rw [hparsed]
    rfl
  case settings_eq => exact h
  case pool_eq =>
    rw [h]
    exact ofSettings_fresh settings hpos
  case pool_made =>
    intro s name
    rw [hpool]
    simp only [Session.step, Session.PoolCommand.step, ofSettings_fresh settings hpos]
    rfl
  case pool_run =>
    intro s name later
    rw [Session.run, Session.run, hpool]
  case registry_made =>
    intro s name
    rw [hregistry, outcome_registry settings s name hpos]
  case registry_run =>
    intro s name later
    rw [Session.run, Session.run, hregistry]

end Making

/-- In whatever sequence the lines are written, and with either of them left out, a document gives
its settings, unless its capacity takes more than 64 signed bits: then it is refused, however well a
pool could be made with that capacity. All this is so with any parser that agrees. -/
theorem makes_of_writes {parse : String → Option Table} (hparse : Agrees parse)
    {spelling : String} {order : ByteOrder} {n : Nat}
    (horder : ByteOrder.parse spelling = .ok order) (hletters : IsLettered spelling)
    (hpos : 1 ≤ n) :
    (n ≤ 2 ^ 63 - 1 →
      (∀ document, Writes [orderLine spelling, capacityLine n] document →
        Makes parse document ⟨order, n⟩) ∧
      (∀ document, Writes [capacityLine n, orderLine spelling] document →
        Makes parse document ⟨order, n⟩) ∧
      (∀ document, Writes [orderLine spelling] document →
        Makes parse document ⟨order, 1048576⟩) ∧
      ∀ document, Writes [capacityLine n] document → Makes parse document ⟨.big, n⟩) ∧
    (2 ^ 63 ≤ n →
      (∀ document, Writes [orderLine spelling, capacityLine n] document ∨
        Writes [capacityLine n, orderLine spelling] document ∨
        Writes [capacityLine n] document →
          RefusedFor "config" (ofTable (parse document)) ∧
            RefusedFor "config" (ofToml document)) ∧
      (Settings.mk order n).validate = .ok ()) ∧
    Agrees Toml.parse := by
  refine ⟨fun hn => ?_, fun hn => ⟨fun document hdocument => ?_, ?_⟩, agrees_parse⟩
  · have hlt : n < 2 ^ 63 := by omega
    refine ⟨fun document h => ?_, fun document h => ?_, fun document h => ?_, fun document h => ?_⟩
    · exact makes_of_ofToml hparse hpos (ofToml_of_both horder hletters hpos hlt (.inl h))
    · exact makes_of_ofToml hparse hpos (ofToml_of_both horder hletters hpos hlt (.inr h))
    · exact makes_of_ofToml hparse (by simp) (ofToml_of_order horder hletters h)
    · exact makes_of_ofToml hparse hpos (ofToml_of_capacity hpos hlt h)
  · have hrefused := refusedFor_of_capacity hn hletters hdocument
    exact ⟨(hparse.alike document).refusedFor hrefused, hrefused⟩
  · exact (validate_eq_ok_iff _).mpr hpos

/-- A parser that sees the last entry first, with a document whose last line is ended and one with
the least capacity that cannot be written. -/
theorem makes_of_writes_of_two :
    let parse (document : String) := (Toml.parse document).map List.reverse
    Agrees parse ∧ ByteOrder.parse " Little-Endian\t" = .ok .little ∧
      IsLettered " Little-Endian\t" ∧
      Makes parse "slab_capacity = 65536\r\ndefault_order = \" Little-Endian\t\"\n"
        ⟨.little, 65536⟩ ∧
      RefusedFor "config" (ofTable (parse "slab_capacity = 9223372036854775808")) ∧
      RefusedFor "config" (ofToml "slab_capacity = 9223372036854775808") := by
  intro parse
  have hparse : Agrees parse := by
    constructor
    case none_iff => simp [parse]
    case perm =>
      intro document entries entries' h h'
      obtain rfl : entries'.reverse = entries := by simpa [parse, h'] using h
      exact List.reverse_perm entries'
  have horder : ByteOrder.parse " Little-Endian\t" = .ok .little := by decide
  have hletters : IsLettered " Little-Endian\t" := by decide
  have hboth : Writes [capacityLine 65536, orderLine " Little-Endian\t"]
      "slab_capacity = 65536\r\ndefault_order = \" Little-Endian\t\"\n" := by
    have hlines := Toml.Lines.cons (capacityLine 65536).toList (.carriage _)
      (.cons (orderLine " Little-Endian\t").toList (.feed []) .nil)
    exact hlines
  have hbig : Writes [capacityLine 9223372036854775808] "slab_capacity = 9223372036854775808" := by
    have hlines := Toml.Lines.cons (capacityLine 9223372036854775808).toList .close .nil
    rw [List.append_nil] at hlines
    exact hlines
  exact ⟨hparse, horder, hletters,
    ((makes_of_writes hparse horder hletters (by decide)).1 (by decide)).2.1 _ hboth,
    ((makes_of_writes hparse horder hletters (by decide)).2.1 (by decide)).1 _ (.inr (.inr hbig))⟩
end BytePool.Settings
