import BytePool.Pool
import BytePool.Proofs.Carving.Layout

/-!
# What a journal comes to

The statistics of a pool can be kept by its events alone: each event changes them by what it tells.
So they are counts, sums and last entries of the journal.
-/
namespace BytePool

namespace Event

/-- The slab that is now carved from for an order. -/
def newSlab? (o : ByteOrder) : Event → Option Nat
  | slabInstalled p slab _ | slabRollover p slab _ _ _ _ => if p = o then some slab else none
  | _ => none

/-- The slice that was carved for an order. -/
def slice? (o : ByteOrder) : Event → Option Slice
  | sliceCarved p slab offset length => if p = o then some ⟨slab, offset, length⟩ else none
  | _ => none

/-- The size of memory that is no part of a slab. -/
def ownSize? : Event → Option Nat
  | dedicated _ capacity _ => some capacity
  | _ => none

def isWrapping : Event → Bool
  | regionWrapped .. => true
  | _ => false

def isCopying : Event → Bool
  | regionCopied .. => true
  | _ => false

end Event

/-! ### Event by event -/

def Arena.Snapshot.note (s : Snapshot) : Event → Snapshot
  | .slabInstalled _ slab _ | .slabRollover _ slab _ _ _ _ =>
    { s with currentSlab := some slab, slabsAllocated := s.slabsAllocated + 1 }
  | .sliceCarved _ _ offset length =>
    { s with
      cursor := offset + length
      slicesIssued := s.slicesIssued + 1
      bytesIssued := s.bytesIssued + .ofNat length }
  | _ => s

def Counters.note (c : Counters) : Event → Counters
  | .dedicated _ capacity _ =>
    { c with
      dedicatedAllocations := c.dedicatedAllocations + 1
      dedicatedBytes := c.dedicatedBytes + .ofNat capacity }
  | .regionWrapped .. => { c with wrappedRegions := c.wrappedRegions + 1 }
  | .regionCopied .. => { c with copiedRegions := c.copiedRegions + 1 }
  | _ => c

/-- The statistics once an event has been told of. -/
def Pool.Stats.note (s : Stats) (e : Event) : Stats where
  counters := s.counters.note e
  arenas := s.arenas.modify e.order (·.note e)

/-! ### The whole journal -/

/-- What an arena shows by the events of its order. -/
def Arena.Snapshot.ofJournal (o : ByteOrder) (slabCapacity : Nat) (events : List Event) :
    Snapshot where
  order := o
  slabCapacity
  currentSlab := (events.filterMap (Event.newSlab? o)).getLast?
  cursor := ((events.filterMap (Event.slice? o)).getLast?.map Slice.stop).getD 0
  slabsAllocated := (events.filterMap (Event.newSlab? o)).length
  slicesIssued := (events.filterMap (Event.slice? o)).length
  bytesIssued := .ofNat ((events.filterMap (Event.slice? o)).map Slice.length).sum

/-- What a pool has counted by its events. Of empty buffers there are none. -/
def Counters.ofJournal (events : List Event) : Counters where
  dedicatedAllocations := (events.filterMap Event.ownSize?).length
  dedicatedBytes := .ofNat (events.filterMap Event.ownSize?).sum
  emptyReturns := 0
  wrappedRegions := events.countP Event.isWrapping
  copiedRegions := events.countP Event.isCopying

lemma Counters.ofJournal_append (events : List Event) (e : Event) :
    ofJournal (events ++ [e]) = (ofJournal events).note e := by
  cases e <;>
    simp [ofJournal, note, List.filterMap_cons, Event.ownSize?, Event.isWrapping, Event.isCopying]

namespace Arena.Snapshot
variable {o : ByteOrder} (slabCapacity : Nat) (events : List Event) {e : Event}

lemma ofJournal_append_slab {slab : Nat} (hslab : e.newSlab? o = some slab)
    (hslice : e.slice? o = none) :
    ofJournal o slabCapacity (events ++ [e]) =
      { ofJournal o slabCapacity events with
        currentSlab := some slab
        slabsAllocated := (ofJournal o slabCapacity events).slabsAllocated + 1 } := by
  simp only [ofJournal, List.filterMap_append, List.filterMap_cons_some hslab,
    List.filterMap_cons_none hslice, List.filterMap_nil, List.append_nil, List.getLast?_concat,
    List.length_append, List.length_singleton]

lemma ofJournal_append_slice {s : Slice} (hslab : e.newSlab? o = none)
    (hslice : e.slice? o = some s) :
    ofJournal o slabCapacity (events ++ [e]) =
      { ofJournal o slabCapacity events with
        cursor := s.stop
        slicesIssued := (ofJournal o slabCapacity events).slicesIssued + 1
        bytesIssued := (ofJournal o slabCapacity events).bytesIssued + .ofNat s.length } := by
  simp only [ofJournal, List.filterMap_append, List.filterMap_cons_none hslab,
    List.filterMap_cons_some hslice, List.filterMap_nil, List.append_nil, List.getLast?_concat,
    List.length_append, List.length_singleton, List.map_append, List.map_singleton,
    List.sum_append_nat, List.sum_singleton, UInt64.ofNat_add, Option.map_some, Option.getD_some]

lemma ofJournal_append_of_none (hslab : e.newSlab? o = none) (hslice : e.slice? o = none) :
    ofJournal o slabCapacity (events ++ [e]) = ofJournal o slabCapacity events := by
  simp only [ofJournal, List.filterMap_append, List.filterMap_cons_none hslab,
    List.filterMap_cons_none hslice, List.filterMap_nil, List.append_nil]

/-- An order has no part in the events of the other one. -/
lemma ofJournal_append_of_ne (h : e.order ≠ o) :
    ofJournal o slabCapacity (events ++ [e]) = ofJournal o slabCapacity events := by
  apply ofJournal_append_of_none <;>
    cases e <;> simp_all [Event.newSlab?, Event.slice?, Event.order]

lemma ofJournal_append (e : Event) :
    ofJournal e.order slabCapacity (events ++ [e]) =
      (ofJournal e.order slabCapacity events).note e := by
  cases e with
  | slabInstalled o slab capacity => exact ofJournal_append_slab _ _ (if_pos rfl) rfl
  | slabRollover o slab abandoned abandonedCursor capacity request =>
    exact ofJournal_append_slab _ _ (if_pos rfl) rfl
  | sliceCarved o slab offset length =>
    exact ofJournal_append_slice _ _ (s := ⟨slab, offset, length⟩) rfl (if_pos rfl)
  | dedicated o capacity slabCapacity => exact ofJournal_append_of_none _ _ rfl rfl
  | regionWrapped o length position | regionCopied o length position =>
    exact ofJournal_append_of_none _ _ rfl rfl

end Arena.Snapshot

namespace Pool.Stats

def ofJournal (slabCapacity : Nat) (events : List Event) : Stats where
  counters := .ofJournal events
  arenas := .ofFn fun o => .ofJournal o slabCapacity events

lemma ofJournal_append (slabCapacity : Nat) (events : List Event) (e : Event) :
    ofJournal slabCapacity (events ++ [e]) = (ofJournal slabCapacity events).note e := by
  simp only [ofJournal, note, Counters.ofJournal_append, Stats.mk.injEq, true_and]
  ext o
  rw [PerOrder.modify, PerOrder.get_ofFn, PerOrder.get_ofFn]
  by_cases ho : e.order = o
  · subst ho
    rw [PerOrder.get_set_self, Arena.Snapshot.ofJournal_append]
  · rw [PerOrder.get_set_of_ne _ (Ne.symm ho), PerOrder.get_ofFn,
      Arena.Snapshot.ofJournal_append_of_ne slabCapacity events ho]

/-- Following a journal event by event comes to its counts, sums and last entries. -/
theorem foldl_note_eq_ofJournal (slabCapacity : Nat) (events : List Event) :
    events.foldl note (ofJournal slabCapacity []) = ofJournal slabCapacity events := by
  induction events using List.reverseRecOn with
  | nil => rfl
  | append_singleton events e ih => rw [List.foldl_append, ih, ofJournal_append]; rfl

end Pool.Stats
end BytePool
