import Mathlib.Data.List.Nodup
import BytePool.Toml.Document

/-!
# Keys of a document

Whatever is added to a table while a document is read, no key comes twice: a new key is added only
if it is not there yet, and all else changes what stands under a key.
-/
namespace BytePool.Toml
namespace Entries

/-- No key comes twice. -/
def Distinct (entries : Entries) : Prop := (entries.map (·.1)).Nodup

/-- A change that brings no key twice into a table that has none twice. -/
def KeepsDistinct (change : Entries → Option Entries) : Prop :=
  ∀ entries entries', entries.Distinct → change entries = some entries' → entries'.Distinct

variable {entries : Entries} {key : String}

lemma distinct_nil : Distinct [] := List.nodup_nil

lemma notMem_of_find? (h : entries.find? key = none) : key ∉ entries.map (·.1) := by
  intro hmem
  obtain ⟨entry, hentry, rfl⟩ := List.mem_map.mp hmem
  simpa using List.lookup_eq_none_iff.mp h entry hentry

lemma Distinct.append (h : entries.Distinct) (hnew : key ∉ entries.map (·.1)) (node : Node) :
    (entries.append key node).Distinct := by
  rw [Distinct, map_fst_append]
  simpa using h.concat hnew

lemma Distinct.replace (h : entries.Distinct) (key : String) (node : Node) :
    (entries.replace key node).Distinct := by
  rwa [Distinct, map_fst_replace]

lemma Distinct.erase (h : entries.Distinct) (key : String) : (entries.erase key).Distinct :=
  h.sublist (List.filter_sublist.map _)

lemma notMem_erase (entries : Entries) (key : String) : key ∉ (entries.erase key).map (·.1) := by
  simp [erase]

lemma keepsDistinct_insertNew (key : String) (value : Value) :
    KeepsDistinct (·.insertNew key value) := by
  intro entries entries' h heq
  simp only [insertNew] at heq
  split at heq
  case h_1 hnone =>
    obtain rfl := Option.some.inj heq
    exact h.append (notMem_of_find? hnone) _
  case h_2 => cases heq

/-- A change further down leaves the keys as they are or adds one that was missing. -/
lemma keepsDistinct_editAt {made : Origin} {edit : Origin → Entries → Option Entries}
    (hedit : ∀ origin, KeepsDistinct (edit origin)) (path : List String) (origin : Origin) :
    KeepsDistinct (editAt made edit path origin) := by
  intro entries entries' h heq
  cases path with
  | nil => exact hedit origin entries entries' h heq
  | cons key path =>
    rw [editAt] at heq
    split at heq
    case h_1 hnone =>
      obtain ⟨inner, -, rfl⟩ := Option.map_eq_some_iff.mp heq
      exact h.append (notMem_of_find? hnone) _
    case h_2 => cases heq
    case h_3 =>
      split at heq
      · cases heq
      · obtain ⟨inner, -, rfl⟩ := Option.map_eq_some_iff.mp heq
        exact h.replace _ _
    case h_4 =>
      split at heq
      · cases heq
      · obtain ⟨last, -, rfl⟩ := Option.map_eq_some_iff.mp heq
        exact h.replace _ _

lemma keepsDistinct_insertPair (parents : List String) (key : String) (value : Value) :
    KeepsDistinct (·.insertPair parents key value) := by
  refine keepsDistinct_editAt (fun origin entries entries' h heq => ?_) parents .header
  split at heq
  · cases heq
  · exact keepsDistinct_insertNew key value entries entries' h heq

lemma keepsDistinct_foldlM {α : Type} {change : Entries → α → Option Entries}
    (hchange : ∀ a, KeepsDistinct (change · a)) (items : List α) :
    KeepsDistinct (items.foldlM change ·) := by
  induction items with
  | nil =>
    intro entries entries' h heq
    rwa [← Option.some.inj heq]
  | cons a items ih =>
    intro entries entries' h heq
    obtain ⟨next, hnext, hrest⟩ := Option.bind_eq_some_iff.mp heq
    exact ih next entries' (hchange a entries next h hnext) hrest

end Entries

open Entries (Distinct KeepsDistinct)

lemma keepsDistinct_insertPairs (pairs : List (Key × Value)) :
    KeepsDistinct (insertPairs · pairs) := by
  refine Entries.keepsDistinct_foldlM (fun pair => ?_) pairs
  exact Entries.keepsDistinct_insertPair pair.1.parents pair.1.name pair.2

lemma keepsDistinct_openSection (sec : Section) : KeepsDistinct (openSection sec) := by
  intro entries entries' h heq
  unfold openSection at heq
  split at heq
  case h_1 hnone =>
    obtain ⟨inner, -, heq⟩ := Option.bind_eq_some_iff.mp heq
    obtain rfl := Option.some.inj heq
    exact h.append (Entries.notMem_of_find? hnone) _
  case h_2 =>
    obtain ⟨inner, -, heq⟩ := Option.bind_eq_some_iff.mp heq
    obtain rfl := Option.some.inj heq
    exact (h.erase _).append (entries.notMem_erase _) _
  case h_3 hnone =>
    obtain ⟨inner, -, heq⟩ := Option.bind_eq_some_iff.mp heq
    obtain rfl := Option.some.inj heq
    exact h.append (Entries.notMem_of_find? hnone) _
  case h_4 =>
    obtain ⟨inner, -, heq⟩ := Option.bind_eq_some_iff.mp heq
    obtain rfl := Option.some.inj heq
    exact h.replace _ _
  case h_5 => cases heq

/-- The top-level table of a document names each of its keys once. -/
theorem nodup_of_parse {text : String} {entries : List (String × Value)}
    (h : parse text = some entries) : (entries.map Prod.fst).Nodup := by
  unfold parse at h
  split at h
  case h_1 lines _ =>
    obtain ⟨table, htable, rfl⟩ := Option.map_eq_some_iff.mp h
    obtain ⟨top, htop, hrest⟩ := Option.bind_eq_some_iff.mp htable
    have hdistinct : Distinct table := by
      refine Entries.keepsDistinct_foldlM (fun sec => ?_) _ top table ?_ hrest
      · exact Entries.keepsDistinct_editAt (fun _ => keepsDistinct_openSection sec) _ _
      · exact keepsDistinct_insertPairs _ [] top Entries.distinct_nil htop
    rw [entryValues_eq_map, List.map_map]
    exact hdistinct
  case h_2 => cases h

end BytePool.Toml
