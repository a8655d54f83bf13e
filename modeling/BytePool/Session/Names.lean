/-!
# Values under names

Each name holds at most one value: a later value takes the place of an earlier one.
-/
namespace BytePool.Session

structure Names (α : Type) where
  entries : List (String × α) := []

namespace Names
variable {α β : Type}

instance : Inhabited (Names α) := ⟨{}⟩

def find? (names : Names α) (name : String) : Option α := names.entries.lookup name

def erase (names : Names α) (name : String) : Names α :=
  ⟨names.entries.filter fun entry => entry.1 ≠ name⟩

/-- A name that holds a value keeps its place. -/
def insertInto (name : String) (value : α) : List (String × α) → List (String × α)
  | [] => [(name, value)]
  | entry :: entries =>
    if entry.1 = name then (name, value) :: entries
    else entry :: insertInto name value entries

def insert (names : Names α) (name : String) (value : α) : Names α :=
  ⟨insertInto name value names.entries⟩

def contains (names : Names α) (name : String) : Bool := (names.find? name).isSome

@[simp] theorem find?_insert_self (names : Names α) (name : String) (value : α) :
    (names.insert name value).find? name = some value := by
  obtain ⟨entries⟩ := names
  simp only [find?, insert]
  induction entries with
  | nil => simp [insertInto]
  | cons entry entries ih =>
    by_cases h : entry.1 = name
    · simp [insertInto, h]
    · have hb : (name == entry.1) = false := beq_eq_false_iff_ne.mpr (Ne.symm h)
      rw [insertInto, if_neg h, List.lookup_cons, hb]
      exact ih

@[simp] theorem find?_erase_self (names : Names α) (name : String) :
    (names.erase name).find? name = none := by
  obtain ⟨entries⟩ := names
  simp only [find?, erase]
  induction entries with
  | nil => rfl
  | cons entry entries ih =>
    by_cases h : entry.1 = name
    · rw [List.filter_cons_of_neg (by simp [h]), ih]
    · have hb : (name == entry.1) = false := beq_eq_false_iff_ne.mpr (Ne.symm h)
      rw [List.filter_cons_of_pos (by simp [h]), List.lookup_cons, hb]
      exact ih

theorem find?_erase_of_ne (names : Names α) {name other : String} (h : other ≠ name) :
    (names.erase name).find? other = names.find? other := by
  obtain ⟨entries⟩ := names
  simp only [find?, erase]
  induction entries with
  | nil => rfl
  | cons entry entries ih =>
    by_cases he : entry.1 = name
    · have hb : (other == entry.1) = false := beq_eq_false_iff_ne.mpr (he ▸ h)
      rw [List.filter_cons_of_neg (by simp [he]), List.lookup_cons, hb]
      exact ih
    · rw [List.filter_cons_of_pos (by simp [he]), List.lookup_cons, List.lookup_cons, ih]

theorem find?_insert_of_ne (names : Names α) {name other : String} (h : other ≠ name) (value : α) :
    (names.insert name value).find? other = names.find? other := by
  have hb : (other == name) = false := beq_eq_false_iff_ne.mpr h
  obtain ⟨entries⟩ := names
  simp only [find?, insert]
  induction entries with
  | nil => simp [insertInto, List.lookup_cons, hb]
  | cons entry entries ih =>
    by_cases he : entry.1 = name
    · rw [insertInto, if_pos he, List.lookup_cons, List.lookup_cons, he, hb]
    · rw [insertInto, if_neg he, List.lookup_cons, List.lookup_cons, ih]

/-- To give a name the value that it holds changes nothing. -/
theorem insert_of_find? {names : Names α} {name : String} {value : α}
    (h : names.find? name = some value) : names.insert name value = names := by
  obtain ⟨entries⟩ := names
  simp only [find?] at h
  simp only [insert, mk.injEq]
  induction entries with
  | nil => simp at h
  | cons entry entries ih =>
    by_cases he : entry.1 = name
    · rw [List.lookup_cons, he, BEq.rfl] at h
      obtain rfl := Option.some.inj h
      rw [insertInto, if_pos he, ← he]
    · have hb : (name == entry.1) = false := beq_eq_false_iff_ne.mpr (Ne.symm he)
      rw [List.lookup_cons, hb] at h
      rw [insertInto, if_neg he, ih h]

/-! ### All values -/

/-- The same names with something made of each value. -/
def map (f : α → β) (names : Names α) : Names β :=
  ⟨names.entries.map fun entry => (entry.1, f entry.2)⟩

def All (P : α → Prop) (names : Names α) : Prop := ∀ entry ∈ names.entries, P entry.2

@[simp] theorem map_same (names : Names α) : names.map (fun value => value) = names := by
  simp [map]

theorem find?_map (f : α → β) (names : Names α) (name : String) :
    (names.map f).find? name = (names.find? name).map f := by
  obtain ⟨entries⟩ := names
  simp only [find?, map]
  induction entries with
  | nil => rfl
  | cons entry entries ih =>
    rw [List.map_cons, List.lookup_cons, List.lookup_cons, ih]
    cases name == entry.1 <;> rfl

theorem contains_map (f : α → β) (names : Names α) (name : String) :
    (names.map f).contains name = names.contains name := by
  simp [contains, find?_map]

theorem insert_map (f : α → β) (names : Names α) (name : String) (value : α) :
    (names.insert name value).map f = (names.map f).insert name (f value) := by
  obtain ⟨entries⟩ := names
  simp only [insert, map, mk.injEq]
  induction entries with
  | nil => rfl
  | cons entry entries ih =>
    by_cases h : entry.1 = name
    · simp [insertInto, h]
    · simp [insertInto, h, ih]

theorem erase_map (f : α → β) (names : Names α) (name : String) :
    (names.erase name).map f = (names.map f).erase name := by
  simp only [erase, map, mk.injEq, List.filter_map]
  rfl

theorem All.find? {P : α → Prop} {names : Names α} (h : names.All P) {name : String} {value : α}
    (hfind : names.find? name = some value) : P value := by
  obtain ⟨entries⟩ := names
  simp only [Names.find?, List.lookup_eq_some_iff] at hfind
  obtain ⟨before, after, rfl, -⟩ := hfind
  exact h (name, value) (by simp)

theorem All.insert {P : α → Prop} {names : Names α} (h : names.All P) (name : String) {value : α}
    (hvalue : P value) : (names.insert name value).All P := by
  obtain ⟨entries⟩ := names
  simp only [Names.insert, All] at h ⊢
  induction entries with
  | nil => simp [insertInto, hvalue]
  | cons entry entries ih =>
    unfold insertInto
    split
    · simp only [List.forall_mem_cons] at h ⊢
      exact ⟨hvalue, h.2⟩
    · simp only [List.forall_mem_cons] at h ⊢
      exact ⟨h.1, ih h.2⟩

theorem All.erase {P : α → Prop} {names : Names α} (h : names.All P) (name : String) :
    (names.erase name).All P :=
  fun entry hentry => h entry (List.mem_filter.mp hentry).1

end Names
end BytePool.Session
