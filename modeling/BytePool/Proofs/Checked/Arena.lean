import BytePool.Carving.Arena
import BytePool.Proofs.Checked.Buffer

/-!
# Slabs and arenas as they are stored

A slab knows its capacity and the tail that is left of it; how much was carved off is the
difference. Nothing in a slab keeps it from being carved beyond its end: that is up to the arena,
which looks at the tail first and asks for no more than a whole slab has.
-/
namespace BytePool.Checked

/-! ### Slabs -/

structure Slab where
  id : Nat
  capacity : Nat
  /-- The memory that is left at the end. -/
  tail : Blank
  deriving DecidableEq, Repr

namespace Slab

def remaining (slab : Slab) : Nat := slab.tail.bytes.length

def cursor (slab : Slab) : Except Fault Nat := sub slab.capacity slab.remaining

def allocate (id capacity : Nat) : Except Failure Slab :=
  if maxAllocation < capacity then .error .capacityOverflow
  else .ok ⟨id, capacity, .zeroed capacity⟩

/-- Cuts off bytes, and not more than there are. -/
def splitTo (blank : Blank) (length : Nat) : Except Fault (Block × Blank) := do
  ensure (length ≤ blank.bytes.length) .outOfRange
  return blank.splitTo length

lemma splitTo_of_le {blank : Blank} {length : Nat} (h : length ≤ blank.bytes.length) :
    splitTo blank length = .ok (blank.splitTo length) := by
  rw [splitTo, ensure_of h]
  rfl

/-- Carves off bytes that must be there. -/
def carveFront (slab : Slab) (length : Nat) : Except Fault (Chunk × Slab) := do
  ensure (length ≤ slab.remaining) .assertion
  let offset ← slab.cursor
  let (front, tail) ← splitTo slab.tail length
  return (⟨front, offset⟩, { slab with tail })

def carve? (slab : Slab) (length : Nat) : Attempt Slab (Option Chunk) :=
  if slab.remaining < length then .ok (.done none slab)
  else Except.map (fun carved => .done (some carved.1) carved.2) (slab.carveFront length)

/-- The slab as it shows itself. -/
def shown (slab : Slab) : Except Fault BytePool.Slab := do
  return ⟨slab.id, ← slab.cursor, slab.tail⟩

structure Sound (slab : Slab) : Prop where
  remaining_le : slab.remaining ≤ slab.capacity
  capacity_le : slab.capacity ≤ maxAllocation

def view (slab : Slab) : BytePool.Slab := ⟨slab.id, slab.capacity - slab.remaining, slab.tail⟩

def stored : Abstraction Slab BytePool.Slab := ⟨view, Sound⟩

lemma allocate_eq (id capacity : Nat) :
    (∃ slab, allocate id capacity = .ok slab ∧ slab.Sound ∧ slab.remaining = capacity ∧
        BytePool.Slab.allocate id capacity = .ok slab.view) ∨
      allocate id capacity = .error .capacityOverflow ∧
        BytePool.Slab.allocate id capacity = .error .capacityOverflow := by
  unfold allocate BytePool.Slab.allocate
  split
  case isTrue h => exact .inr ⟨rfl, rfl⟩
  case isFalse h =>
    have hwhole : remaining ⟨id, capacity, .zeroed capacity⟩ = capacity :=
      (Blank.zeroed capacity).filled
    exact .inl ⟨_, rfl, ⟨Nat.le_of_eq hwhole, Nat.le_of_not_lt h⟩, hwhole, by simp [view, hwhole]⟩

section
variable {slab : Slab} (h : slab.Sound)
include h

lemma cursor_eq : slab.cursor = .ok slab.view.cursor := sub_of_le h.remaining_le

theorem shown_eq : slab.shown = .ok slab.view := by
  rw [shown, cursor_eq h]
  rfl

lemma carveFront_eq {length : Nat} (hle : length ≤ slab.remaining) :
    ∃ rest : Slab, slab.carveFront length = .ok ((slab.view.carve length).1, rest) ∧
      rest.Sound ∧ rest.view = (slab.view.carve length).2 := by
  let rest : Slab := { slab with tail := (slab.tail.splitTo length).2 }
  have hrest : rest.remaining = slab.remaining - length := slab.view.remaining_carve length
  have hremaining := h.remaining_le
  refine ⟨rest, ?_, ⟨?_, h.capacity_le⟩, ?_⟩
  · rw [carveFront, ensure_of hle, cursor_eq h, splitTo_of_le hle]
    rfl
  · rw [hrest]
    exact Nat.le_trans (Nat.sub_le _ _) hremaining
  · have hcursor : slab.capacity - rest.remaining = slab.capacity - slab.remaining + length := by
      omega
    rw [view, hcursor]
    rfl

theorem carve?_follows (length : Nat) :
    (slab.carve? length).Follows stored
      (.such fun found => ∀ chunk, found = some chunk → chunk.bytes.length ≤ maxAllocation)
      (slab.view.carve? length) := by
  unfold carve? BytePool.Slab.carve?
  by_cases hle : length ≤ slab.remaining
  · obtain ⟨rest, heq, hsound, hview⟩ := carveFront_eq h hle
    have hlength : (slab.view.carve length).1.bytes.length ≤ maxAllocation :=
      calc (slab.view.carve length).1.bytes.length
          ≤ slab.remaining := List.length_take_le' _ _
        _ ≤ maxAllocation := Nat.le_trans h.remaining_le h.capacity_le
    rw [if_neg (Nat.not_lt.mpr hle), if_pos (show length ≤ slab.view.remaining from hle), heq,
      ← hview]
    exact .done hsound (by rintro _ ⟨⟩; exact hlength)
  · rw [if_pos (Nat.lt_of_not_le hle), if_neg (show ¬length ≤ slab.view.remaining from hle)]
    exact .done h (by simp [Abstraction.such])

end

end Slab

/-! ### Arenas -/

structure Arena where
  order : ByteOrder
  slabCapacity : Nat
  current : Option Slab := none
  slabsAllocated : Nat := 0
  slicesIssued : Nat := 0
  bytesIssued : Nat := 0
  deriving DecidableEq, Repr

namespace Arena

def installEvent (arena : Arena) (slab : Slab) (request : Nat) : Except Fault Event :=
  match arena.current with
  | none => .ok (.slabInstalled arena.order slab.id arena.slabCapacity)
  | some old =>
    Except.map (fun cursor =>
      .slabRollover arena.order slab.id old.id cursor arena.slabCapacity request) old.cursor

def install (arena : Arena) (request : Nat) : Attempt Arena Slab :=
  (do
    let slabsAllocated ← add arena.slabsAllocated 1
    let counted := { arena with slabsAllocated }
    match Slab.allocate slabsAllocated arena.slabCapacity with
    | .error failure => return ⟨.error failure, counted, []⟩
    | .ok slab =>
      let event ← arena.installEvent slab request
      return (Reply.done slab { counted with current := some slab }).emit event :
    Except Fault (Reply Arena Slab))

def issue (arena : Arena) (slab : Slab) (length : Nat) : Attempt Arena Buffer :=
  (do
    let (chunk, rest) ← slab.carveFront length
    let slicesIssued ← add arena.slicesIssued 1
    let bytesIssued ← add arena.bytesIssued length
    return (Reply.done (.ofSlice arena.order slab.id chunk)
      { arena with current := some rest, slicesIssued, bytesIssued }).emit
      (.sliceCarved arena.order slab.id chunk.offset length) :
    Except Fault (Reply Arena Buffer))

def fitting (arena : Arena) (length : Nat) : Option Slab :=
  arena.current.filter (length ≤ ·.remaining)

def carve (arena : Arena) (length : Nat) : Attempt Arena Buffer :=
  Except.bind (ensure (0 < length ∧ length ≤ arena.slabCapacity) .assertion) fun _ =>
    match arena.fitting length with
    | some slab => arena.issue slab length
    | none => (arena.install length).bind fun arena slab => arena.issue slab length

def allocate (arena : Arena) (capacity : Nat) : Attempt Arena Buffer :=
  if capacity = 0 ∨ arena.slabCapacity < capacity then
    .ok (.refuse (.invalidArgument "capacity" ("arena requests must be within 1..=" ++
      toString arena.slabCapacity ++ ": " ++ toString capacity)) arena)
  else arena.carve capacity

/-- The arena as it shows itself. -/
def shown (arena : Arena) : Except Fault BytePool.Arena := do
  let current ← match arena.current with
    | none => pure none
    | some slab => Except.map some slab.shown
  return {
    order := arena.order
    slabCapacity := arena.slabCapacity
    current
    slabsAllocated := arena.slabsAllocated
    slicesIssued := arena.slicesIssued
    bytesIssued := UInt64.ofNat arena.bytesIssued }

/-- Slabs have room for something, and the current one keeps its tail within its capacity. -/
structure Sound (arena : Arena) : Prop where
  slabCapacity_pos : 0 < arena.slabCapacity
  current : ∀ slab, arena.current = some slab → slab.Sound

def view (arena : Arena) : BytePool.Arena where
  order := arena.order
  slabCapacity := arena.slabCapacity
  current := arena.current.map Slab.view
  slabsAllocated := arena.slabsAllocated
  slicesIssued := arena.slicesIssued
  bytesIssued := UInt64.ofNat arena.bytesIssued

/-- Arenas with slabs of a certain capacity. -/
def ofCapacity (slabCapacity : Nat) : Abstraction Arena BytePool.Arena :=
  ⟨view, fun arena => arena.Sound ∧ arena.slabCapacity = slabCapacity⟩

/-- There is a slab for a slice of this length, or memory for one. -/
def Issues (arena : Arena) (length : Nat) : Prop :=
  arena.fitting length = none → arena.slabCapacity ≤ maxAllocation

/-- The counters have room for one more slice of a length, and for the slab that it may take. -/
structure HasRoom (arena : Arena) (length : Nat) : Prop where
  slabs : arena.fitting length = none → arena.slabsAllocated + 1 ≤ maxWord
  slices : arena.Issues length → arena.slicesIssued + 1 ≤ maxWord
  bytes : arena.Issues length → arena.bytesIssued + length ≤ maxWord

lemma fitting_view (arena : Arena) (length : Nat) :
    arena.view.fitting length = (arena.fitting length).map Slab.view := by
  simp only [BytePool.Arena.fitting, fitting, view]
  cases arena.current with
  | none => rfl
  | some slab => by_cases h : length ≤ slab.remaining <;>
      simp [Option.filter, show slab.view.remaining = slab.remaining from rfl, h]

section
variable {arena : Arena} (h : arena.Sound)
include h

theorem shown_eq : arena.shown = .ok arena.view := by
  unfold shown view
  cases hc : arena.current with
  | none => rfl
  | some slab => simp only [Slab.shown_eq (h.current slab hc)]; rfl

lemma installEvent_eq (slab : Slab) (request : Nat) :
    arena.installEvent slab request = .ok (arena.view.installEvent slab.view request) := by
  unfold installEvent BytePool.Arena.installEvent
  cases hc : arena.current with
  | none => simp [view, hc, Slab.view]
  | some old =>
    simp only [Slab.cursor_eq (h.current old hc)]
    simp [view, hc, Slab.view, Except.map]

/-- A new slab is a whole one, and the arena has counted it. -/
lemma install_eq (length : Nat) (hadd : arena.slabsAllocated + 1 ≤ maxWord) :
    (∃ slab event,
        let installed : Arena :=
          { arena with current := some slab, slabsAllocated := arena.slabsAllocated + 1 }
        arena.install length = Attempt.emit event (.ok (.done slab installed)) ∧
        arena.view.install length = (Reply.done slab.view installed.view).emit event ∧
        slab.Sound ∧ slab.remaining = arena.slabCapacity) ∨
      ∃ counted, arena.install length = .ok (.overflow counted) ∧
        (ofCapacity arena.slabCapacity).Sound counted ∧
        arena.view.install length = .overflow counted.view := by
  unfold install BytePool.Arena.install
  rw [add_of_le hadd]
  obtain ⟨slab, heq, hslab, htail, hrun⟩ | ⟨heq, hrun⟩ :=
    Slab.allocate_eq (arena.slabsAllocated + 1) arena.slabCapacity
  · have hrun' : BytePool.Slab.allocate (arena.view.slabsAllocated + 1) arena.view.slabCapacity =
        .ok slab.view := hrun
    refine .inl ⟨slab, arena.view.installEvent slab.view length, ?_, ?_, hslab, htail⟩
    · simp only [bind, Except.bind, heq, installEvent_eq h]
      rfl
    · simp only [hrun']
      rfl
  · have hrun' : BytePool.Slab.allocate (arena.view.slabsAllocated + 1) arena.view.slabCapacity =
        .error .capacityOverflow := hrun
    refine .inr ⟨{ arena with slabsAllocated := arena.slabsAllocated + 1 }, ?_,
      ⟨⟨h.slabCapacity_pos, h.current⟩, rfl⟩, ?_⟩
    · simp only [bind, Except.bind, heq]
      rfl
    · simp only [hrun']
      rfl

/-- What has been carved is a writable buffer with all its bytes there. -/
lemma issue_follows {slab : Slab} (hslab : slab.Sound) {length : Nat}
    (hle : length ≤ slab.remaining) (hslices : arena.slicesIssued + 1 ≤ maxWord)
    (hbytes : arena.bytesIssued + length ≤ maxWord) :
    (arena.issue slab length).Follows (ofCapacity arena.slabCapacity) (Buffer.roomFor length)
      (arena.view.issue slab.view length) := by
  obtain ⟨rest, heq, hrest, hview⟩ := Slab.carveFront_eq hslab hle
  have hlen : length ≤ maxAllocation :=
    Nat.le_trans hle (Nat.le_trans hslab.remaining_le hslab.capacity_le)
  have hchunk : (slab.view.carve length).1 = ⟨.zeroed length, slab.view.cursor⟩ := by
    rw [BytePool.Slab.carve_eq hle]
  rw [hchunk] at heq
  let b := Buffer.ofSlice arena.order slab.id ⟨.zeroed length, slab.view.cursor⟩
  let after : Arena :=
    { arena with
      current := some rest
      slicesIssued := arena.slicesIssued + 1
      bytesIssued := arena.bytesIssued + length }
  obtain ⟨hb, hview_b⟩ := Buffer.roomFor_ofSlice arena.order slab.id slab.view.cursor hlen
  have hissue : arena.issue slab length =
      Attempt.emit (.sliceCarved arena.order slab.id slab.view.cursor length)
        (.ok (.done b after)) := by
    rw [issue, heq, add_of_le hslices, add_of_le hbytes]
    rfl
  have hrun : arena.view.issue slab.view length =
      (Reply.done b.view after.view).emit
        (.sliceCarved arena.order slab.id slab.view.cursor length) := by
    simp only [BytePool.Arena.issue, hchunk, view, after, Option.map_some, hview, UInt64.ofNat_add,
      b, hview_b]
    rfl
  have hafter : (ofCapacity arena.slabCapacity).Sound after :=
    ⟨⟨h.slabCapacity_pos, by rintro _ ⟨⟩; exact hrest⟩, rfl⟩
  rw [hissue, hrun]
  exact .emit (.done hafter hb) _

/-- A request that the arena may be asked for is carved as it should be, or no memory can hold a
slab. -/
theorem carve_follows {length : Nat} (hpos : 0 < length) (hle : length ≤ arena.slabCapacity)
    (hroom : arena.HasRoom length) :
    (arena.carve length).Follows (ofCapacity arena.slabCapacity) (Buffer.roomFor length)
      (arena.view.carve length) := by
  unfold carve BytePool.Arena.carve
  rw [ensure_of ⟨hpos, hle⟩, fitting_view]
  cases hfit : arena.fitting length with
  | some slab =>
    obtain ⟨hcurrent, hfits⟩ := Option.filter_eq_some_iff.mp hfit
    have hissues : arena.Issues length := fun hnone => by simp [hfit] at hnone
    exact issue_follows h (h.current slab hcurrent) (of_decide_eq_true hfits)
      (hroom.slices hissues) (hroom.bytes hissues)
  | none =>
    simp only [Except.bind, Option.map_none]
    obtain ⟨slab, event, heq, hrun, hslab, htail⟩ | ⟨counted, heq, hsound, hrun⟩ :=
      install_eq h length (hroom.slabs hfit)
    · have hinstalled : Sound { arena with
          current := some slab
          slabsAllocated := arena.slabsAllocated + 1 } :=
        ⟨h.slabCapacity_pos, by rintro _ ⟨⟩; exact hslab⟩
      -- The new slab is whole, and the request was checked against a whole slab.
      have hissues : arena.Issues length := fun _ =>
        htail ▸ Nat.le_trans hslab.remaining_le hslab.capacity_le
      rw [heq, hrun, Attempt.emit_bind, Attempt.done_bind, Reply.emit_bind, Reply.done_bind]
      exact (issue_follows hinstalled hslab (htail ▸ hle) (hroom.slices hissues)
        (hroom.bytes hissues)).emit event
    · rw [heq, hrun]
      exact .overflow hsound

theorem allocate_follows (capacity : Nat)
    (hroom : 0 < capacity → capacity ≤ arena.slabCapacity → arena.HasRoom capacity) :
    (arena.allocate capacity).Follows (ofCapacity arena.slabCapacity) (Buffer.roomFor capacity)
      (arena.view.allocate capacity) := by
  unfold allocate BytePool.Arena.allocate
  by_cases hout : capacity = 0 ∨ arena.slabCapacity < capacity
  · rw [if_pos hout, if_pos (show capacity = 0 ∨ arena.view.slabCapacity < capacity from hout)]
    exact .refuse (show (ofCapacity arena.slabCapacity).Sound arena from ⟨h, rfl⟩) _
  · rw [if_neg hout, if_neg (show ¬(capacity = 0 ∨ arena.view.slabCapacity < capacity) from hout)]
    exact carve_follows h (by omega) (by omega) (hroom (by omega) (by omega))

end

end Arena
end BytePool.Checked
