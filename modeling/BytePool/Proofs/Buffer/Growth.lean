import BytePool.Proofs.Checked.Fifo

/-!
# Indices and room

The two indices of a buffer move only by what was read and written, and the memory that a buffer
lies in is exchanged for a larger one at the first write that finds too little room, and never
before. Reading makes no room, so what counts is all that was written since the buffer was last
emptied.
-/
namespace BytePool.Buffer
open Checked.Buffer (written)

/-! ### Indices -/

/-- How many bytes an operation takes. -/
def taken : Operation → Nat
  | .getNumber type => type.width
  | .readInto length | .skip length => length
  | .clear | .putSlice _ | .putNumber _ _ => 0

/-- A request that succeeds moves the indices by what it takes and puts, and one that fails leaves
the buffer as it was. -/
structure Moves {α : Type} (b : Buffer) (taken put : Nat) (reply : Reply Buffer α) : Prop where
  readerIndex_eq : reply.outcome.isOk → reply.state.readerIndex = b.readerIndex + taken
  writerIndex_eq : reply.outcome.isOk → reply.state.writerIndex = b.writerIndex + put
  state_eq : ¬reply.outcome.isOk → reply.state = b

namespace Moves
variable {α β : Type} {b : Buffer} {taken put : Nat} {reply : Reply Buffer α}

lemma map (h : Moves b taken put reply) (f : α → β) : Moves b taken put (reply.map f) := by
  have hsame : (reply.map f).outcome.isOk = reply.outcome.isOk := by
    cases ho : reply.outcome <;> simp [Reply.map, ho, Except.map, Except.isOk, Except.toBool]
  refine ⟨?_, ?_, ?_⟩
  all_goals rw [hsame]
  · exact h.readerIndex_eq
  · exact h.writerIndex_eq
  · exact h.state_eq

lemma done (value : α) : Moves b 0 0 (.done value b) := ⟨fun _ => rfl, fun _ => rfl, fun _ => rfl⟩

lemma refuse (e : Error) : Moves b taken put (.refuse e b : Reply Buffer α) :=
  ⟨nofun, nofun, fun _ => rfl⟩

end Moves

lemma moves_put (b : Buffer) (name : String) (bytes : List UInt8) :
    Moves b 0 bytes.length (b.put name bytes) := by
  unfold put
  split
  · exact .refuse _
  · exact ⟨fun _ => rfl, fun _ => b.writerIndex_append bytes, fun h => absurd rfl h⟩

lemma moves_take (b : Buffer) (length : Nat) : Moves b length 0 (b.take length) := by
  unfold take
  split
  case isTrue => exact .refuse _
  case isFalse hle =>
    refine ⟨fun _ => rfl, fun _ => ?_, fun h => absurd rfl h⟩
    simp only [Reply.done, writerIndex, List.length_drop]
    omega

/-- Every operation but one that empties the buffer moves the indices. -/
lemma moves_perform (b : Buffer) {operation : Operation} (h : operation ≠ .clear) :
    Moves b (taken operation) (written operation) (b.perform operation) := by
  cases operation with
  | clear => exact absurd rfl h
  | putSlice bytes =>
    refine Moves.map ?_ _
    unfold putSlice
    split
    case isTrue hnil =>
      obtain rfl := List.isEmpty_iff.mp hnil
      exact .done ()
    case isFalse => exact b.moves_put _ bytes
  | putNumber type value =>
    have hput := b.moves_put ("put_" ++ type.name) (Number.encode b.order type value)
    rw [Number.length_encode] at hput
    exact hput.map _
  | getNumber type => exact ((b.moves_take _).map _).map _
  | readInto length => exact (b.moves_take length).map _
  | skip length => exact ((b.moves_take length).map _).map _

lemma length_of_perform_bytes {b : Buffer} {operation : Operation} {content : List UInt8}
    (h : (b.perform operation).outcome = .ok (.bytes content)) :
    content.length = taken operation := by
  cases operation with
  | readInto length =>
    simp only [perform, take] at h
    split at h
    case isTrue => cases h
    case isFalse hle =>
      obtain rfl : b.readable.take length = content := by
        simpa [Reply.map, Reply.done, Except.map] using h
      exact List.length_take_of_le (Nat.le_of_not_lt hle)
  | clear => cases h
  | putSlice bytes | putNumber type value | getNumber type | skip length =>
    simp only [perform, Reply.map, Except.map] at h
    split at h <;> cases h

/-! ### What an operation leaves -/

/-- What an operation leaves of a buffer: nothing, all that was there, all of it with some bytes put
behind it, or all but some bytes taken from its front. -/
inductive Leaves (b : Buffer) : Operation → Buffer → Prop
  | cleared : Leaves b .clear b.clear
  | same {operation : Operation} (hclear : operation ≠ .clear)
      (h : b.isReadOnly = false → written operation = 0) : Leaves b operation b
  | longer {operation : Operation} (hclear : operation ≠ .clear) (hb : b.isReadOnly = false)
      (bytes : List UInt8) (h : bytes.length = written operation) :
      Leaves b operation (b.append bytes)
  | shorter {operation : Operation} (hclear : operation ≠ .clear) (h : written operation = 0)
      (length : Nat) (hle : length ≤ b.readable.length) :
      Leaves b operation
        { b with readerIndex := b.readerIndex + length, readable := b.readable.drop length }

lemma leaves_put (b : Buffer) {operation : Operation} (hclear : operation ≠ .clear) (name : String)
    {bytes : List UInt8} (h : bytes.length = written operation) :
    b.Leaves operation (b.put name bytes).state := by
  unfold put
  split
  case isTrue hb => exact .same hclear fun hb' => nomatch hb.symm.trans hb'
  case isFalse hb => exact .longer hclear (Bool.eq_false_iff.mpr hb) bytes h

lemma leaves_take (b : Buffer) {operation : Operation} (hclear : operation ≠ .clear)
    (h : written operation = 0) (length : Nat) : b.Leaves operation (b.take length).state := by
  unfold take
  split
  case isTrue => exact .same hclear fun _ => h
  case isFalse hle => exact .shorter hclear h length (Nat.le_of_not_lt hle)

lemma leaves_perform (b : Buffer) (operation : Operation) :
    b.Leaves operation (b.perform operation).state := by
  cases operation with
  | clear => exact .cleared
  | putSlice bytes =>
    simp only [perform, Reply.state_map, putSlice]
    split
    case isTrue hnil =>
      exact .same (by simp) fun _ => congrArg List.length (List.isEmpty_iff.mp hnil)
    case isFalse => exact b.leaves_put (by simp) _ rfl
  | putNumber type value => exact b.leaves_put (by simp) _ (Number.length_encode ..)
  | getNumber type => exact b.leaves_take (by simp) rfl _
  | readInto length | skip length => exact b.leaves_take (by simp) rfl length

lemma nil_of_writerIndex {b : Buffer} (h : b.writerIndex = 0) :
    b.readerIndex = 0 ∧ b.readable = [] := by
  obtain ⟨hreader, hlength⟩ := Nat.add_eq_zero_iff.mp h
  exact ⟨hreader, List.eq_nil_of_length_eq_zero hlength⟩

namespace Leaves
variable {b last : Buffer} {operation : Operation} (h : b.Leaves operation last)
include h

lemma isReadOnly_eq : last.isReadOnly = b.isReadOnly := by cases h <;> rfl

/-- Nothing changes a buffer that is empty and can only be read. -/
lemma inert (hb : b.isReadOnly = true) (hw : b.writerIndex = 0) : last = b := by
  obtain ⟨hreader, hnil⟩ := nil_of_writerIndex hw
  cases h with
  | cleared =>
    obtain ⟨order, origin, isReadOnly, readerIndex, readable, capacity⟩ := b
    subst hreader hnil
    rfl
  | same => rfl
  | longer _ hb' => cases hb.symm.trans hb'
  | shorter _ _ length hle =>
    obtain rfl : length = 0 := by simpa [hnil] using hle
    rfl

/-- Of a buffer that can be written the writer index moves by what is put, since no put fails. -/
lemma writerIndex_eq (hb : b.isReadOnly = false) :
    last.writerIndex = if operation = .clear then 0 else b.writerIndex + written operation := by
  cases h with
  | cleared => rfl
  | same hclear hnone => rw [if_neg hclear, hnone hb, Nat.add_zero]
  | longer hclear _ bytes hlength => rw [if_neg hclear, writerIndex_append, hlength]
  | shorter hclear hnone length hle =>
    rw [if_neg hclear, hnone]
    simp only [writerIndex, List.length_drop]
    omega

/-- How far a buffer can be written before it grows is changed only by a write that goes
further. -/
lemma capacity_eq (hb : b.isReadOnly = false)
    (hle : ∀ capacity, b.capacity = some capacity → b.writerIndex ≤ capacity) :
    last.capacity = b.capacity.filter (b.writerIndex + written operation ≤ ·) := by
  have hsame (hnone : written operation = 0) :
      b.capacity = b.capacity.filter (b.writerIndex + written operation ≤ ·) := by
    cases hc : b.capacity with
    | none => rfl
    | some capacity => simp [Option.filter_some, hnone, hle capacity hc]
  cases h with
  | cleared => exact hsame rfl
  | same _ hnone => exact hsame (hnone hb)
  | longer _ _ bytes hlength => rw [← hlength]; rfl
  | shorter _ hnone => exact hsame hnone

end Leaves

/-! ### Room -/

/-- A buffer with the size of the memory that it lies in. -/
structure Sized where
  buffer : Buffer
  capacity : Nat

namespace Sized

/-- How many bytes the memory still has room for. -/
def writableBytes (x : Sized) : Nat := x.capacity - x.buffer.writerIndex

/-- There is too little room for what an operation puts. -/
def Outgrows (x : Sized) (operation : Operation) : Prop :=
  x.buffer.isReadOnly = false ∧ x.writableBytes < written operation

instance (x : Sized) (operation : Operation) : Decidable (x.Outgrows operation) :=
  inferInstanceAs (Decidable (_ ∧ _))

/-- Memory with too little room is exchanged for memory with enough of it and some to spare, as much
as the memory pleases. -/
def perform (x : Sized) (operation : Operation) (spare : Nat) : Sized where
  buffer := (x.buffer.perform operation).state
  capacity :=
    if x.Outgrows operation then x.buffer.writerIndex + written operation + spare else x.capacity

/-- Operations one after the other, each with the room that there would be to spare if the memory
were exchanged for it. -/
def performAll (x : Sized) (steps : List (Operation × Nat)) : Sized :=
  steps.foldl (fun x step => x.perform step.1 step.2) x

/-- No operation finds too little room. -/
def Stays (x : Sized) (steps : List (Operation × Nat)) : Prop :=
  ∀ first step, first ++ [step] <+: steps → ¬(x.performAll first).Outgrows step.1

lemma performAll_append (x : Sized) (steps : List (Operation × Nat)) (step : Operation × Nat) :
    x.performAll (steps ++ [step]) = (x.performAll steps).perform step.1 step.2 := by
  simp [performAll]

lemma buffer_performAll (x : Sized) (steps : List (Operation × Nat)) :
    (x.performAll steps).buffer = (x.buffer.performAll (steps.map Prod.fst)).2 := by
  induction steps generalizing x with
  | nil => rfl
  | cons step steps ih => exact ih (x.perform step.1 step.2)

lemma stays_append (x : Sized) (steps : List (Operation × Nat)) (step : Operation × Nat) :
    x.Stays (steps ++ [step]) ↔ x.Stays steps ∧ ¬(x.performAll steps).Outgrows step.1 := by
  constructor
  · intro h
    exact ⟨fun first next hp => h first next (hp.trans (List.prefix_append _ _)),
      h steps step (List.prefix_refl _)⟩
  · rintro ⟨h, hlast⟩ first next hp
    obtain heq | hp := List.prefix_concat_iff.mp hp
    · obtain ⟨rfl, rfl⟩ := List.append_singleton_inj.mp heq
      exact hlast
    · exact h first next hp

/-- What one operation does to the indices and to the room that is left. -/
structure Advances (x : Sized) (operation : Operation) (y : Sized) : Prop where
  buffer_eq : y.buffer = (x.buffer.perform operation).state
  moves : operation ≠ .clear →
    Moves x.buffer (taken operation) (written operation) (x.buffer.perform operation)
  taken_eq : ∀ content, (x.buffer.perform operation).outcome = .ok (.bytes content) →
    content.length = taken operation
  emptied : operation = .clear →
    y.buffer.readerIndex = 0 ∧ y.buffer.writerIndex = 0 ∧ y.writableBytes = x.capacity
  /-- Reading makes no room. -/
  writableBytes_eq : operation ≠ .clear → written operation = 0 →
    y.writableBytes = x.writableBytes
  capacity_eq : ¬x.Outgrows operation → y.capacity = x.capacity
  lt_capacity : x.Outgrows operation → x.capacity < y.capacity

/-! ### Invariants -/

/-- What was written lies in the memory, and memory that can only be read has no room at all. -/
structure Sound (x : Sized) : Prop where
  writerIndex_le : x.buffer.writerIndex ≤ x.capacity
  capacity_eq : ∀ capacity, x.buffer.capacity = some capacity → capacity = x.capacity
  readOnly : x.buffer.isReadOnly = true → x.capacity = 0

section Frame
variable (x : Sized) (steps : List (Operation × Nat))

lemma order_performAll : (x.performAll steps).buffer.order = x.buffer.order := by
  induction steps generalizing x with
  | nil => rfl
  | cons step steps ih => exact (ih _).trans (order_perform x.buffer step.1)

lemma origin_performAll : (x.performAll steps).buffer.origin = x.buffer.origin := by
  induction steps generalizing x with
  | nil => rfl
  | cons step steps ih => exact (ih _).trans (origin_perform x.buffer step.1)

lemma isReadOnly_performAll : (x.performAll steps).buffer.isReadOnly = x.buffer.isReadOnly := by
  induction steps generalizing x with
  | nil => rfl
  | cons step steps ih => exact (ih _).trans (x.buffer.leaves_perform step.1).isReadOnly_eq

end Frame

lemma not_outgrows_of_readOnly {x : Sized} (hb : x.buffer.isReadOnly = true)
    (operation : Operation) : ¬x.Outgrows operation :=
  fun hgrow => nomatch hb.symm.trans hgrow.1

namespace Sound
variable {x : Sized} (h : x.Sound)
include h

lemma le_capacity (capacity : Nat) (hc : x.buffer.capacity = some capacity) :
    x.buffer.writerIndex ≤ capacity := by
  rw [h.capacity_eq capacity hc]
  exact h.writerIndex_le

/-- Memory is exchanged exactly if the end of what is put lies behind it. -/
lemma outgrows_iff (operation : Operation) : x.Outgrows operation ↔
    x.buffer.isReadOnly = false ∧ x.capacity < x.buffer.writerIndex + written operation := by
  have := h.writerIndex_le
  refine and_congr_right fun _ => ?_
  rw [writableBytes]
  omega

lemma writableBytes_eq {capacity : Nat} (hc : x.buffer.capacity = some capacity) :
    x.buffer.writableBytes = some x.writableBytes := by
  rw [Buffer.writableBytes, hc, h.capacity_eq capacity hc]
  rfl

lemma writerIndex_of_readOnly (hb : x.buffer.isReadOnly = true) : x.buffer.writerIndex = 0 :=
  Nat.le_zero.mp (h.writerIndex_le.trans (h.readOnly hb).le)

lemma perform_of_readOnly (hb : x.buffer.isReadOnly = true) (operation : Operation)
    (spare : Nat) : x.perform operation spare = x := by
  have hsame := (x.buffer.leaves_perform operation).inert hb (h.writerIndex_of_readOnly hb)
  rw [Sized.perform, hsame, if_neg (not_outgrows_of_readOnly hb operation)]

theorem perform (operation : Operation) (spare : Nat) : (x.perform operation spare).Sound := by
  cases hb : x.buffer.isReadOnly with
  | true => rwa [h.perform_of_readOnly hb]
  | false =>
    have hgrow := h.outgrows_iff operation
    have hwriter := (x.buffer.leaves_perform operation).writerIndex_eq hb
    have hcapacity := (x.buffer.leaves_perform operation).capacity_eq hb h.le_capacity
    have hle := h.writerIndex_le
    constructor
    case writerIndex_le =>
      simp only [Sized.perform, hwriter]
      by_cases hg : x.Outgrows operation
      · rw [if_pos hg]
        split <;> omega
      · have hroom : x.buffer.writerIndex + written operation ≤ x.capacity :=
          Nat.le_of_not_lt fun hlt => hg (hgrow.mpr ⟨hb, hlt⟩)
        rw [if_neg hg]
        split <;> omega
    case capacity_eq =>
      intro capacity hc
      simp only [Sized.perform, hcapacity, Option.filter_eq_some_iff, decide_eq_true_eq] at hc ⊢
      obtain ⟨hc, hroom⟩ := hc
      obtain rfl := h.capacity_eq capacity hc
      rw [if_neg fun hg => Nat.not_lt.mpr hroom (hgrow.mp hg).2]
    case readOnly =>
      intro hb'
      rw [Sized.perform, (x.buffer.leaves_perform operation).isReadOnly_eq, hb] at hb'
      cases hb'

/-- Memory is exchanged for larger memory only. -/
lemma le_capacity_perform (operation : Operation) (spare : Nat) :
    x.capacity ≤ (x.perform operation spare).capacity ∧
      (x.Outgrows operation → x.capacity < (x.perform operation spare).capacity) := by
  have hgrow := h.outgrows_iff operation
  simp only [Sized.perform]
  split_ifs with hg
  · have := (hgrow.mp hg).2
    omega
  · exact ⟨le_rfl, fun hg' => absurd hg' hg⟩

theorem performAll (steps : List (Operation × Nat)) : (x.performAll steps).Sound := by
  induction steps generalizing x with
  | nil => exact h
  | cons step steps ih => exact ih (h.perform step.1 step.2)

theorem advances (operation : Operation) (spare : Nat) :
    x.Advances operation (x.perform operation spare) := by
  have hsame (hnone : written operation = 0) :
      (x.perform operation spare).capacity = x.capacity :=
    if_neg fun hg => Nat.not_lt_zero _ (hnone ▸ hg.2)
  constructor
  case buffer_eq => rfl
  case moves => exact x.buffer.moves_perform
  case taken_eq => exact fun _ => length_of_perform_bytes
  case emptied =>
    rintro rfl
    exact ⟨rfl, rfl, hsame rfl⟩
  case writableBytes_eq =>
    intro hclear hnone
    have hmoves := x.buffer.moves_perform hclear
    have hwriter : (x.perform operation spare).buffer.writerIndex = x.buffer.writerIndex := by
      by_cases hok : (x.buffer.perform operation).outcome.isOk
      · exact (hmoves.writerIndex_eq hok).trans (congrArg _ hnone)
      · exact congrArg _ (hmoves.state_eq hok)
    rw [writableBytes, hsame hnone, hwriter, writableBytes]
  case capacity_eq => exact fun hroom => if_neg hroom
  case lt_capacity => exact (h.le_capacity_perform operation spare).2

/-! ### Runs -/

/-- The memory is the first one as long as no operation has found too little room. -/
theorem capacity_performAll (steps : List (Operation × Nat)) :
    x.capacity ≤ (x.performAll steps).capacity ∧
      ((x.performAll steps).capacity = x.capacity ↔ x.Stays steps) := by
  -- From the end: memory that was larger once is never exchanged for the first size again.
  induction steps using List.reverseRecOn with
  | nil => exact ⟨le_rfl, iff_of_true rfl fun first step hp => by simp at hp⟩
  | append_singleton steps step ih =>
    obtain ⟨hle, hiff⟩ := ih
    obtain ⟨hle', hlt⟩ := (h.performAll steps).le_capacity_perform step.1 step.2
    rw [performAll_append, stays_append, ← hiff]
    refine ⟨hle.trans hle', fun heq => ⟨by omega, fun hg => ?_⟩, fun ⟨heq, hroom⟩ => ?_⟩
    · have := hlt hg
      omega
    · rw [Sized.perform, if_neg hroom, heq]

/-- A buffer tells how far it can be written until its memory is exchanged. -/
theorem buffer_capacity_performAll (hc : x.buffer.capacity = some x.capacity)
    (steps : List (Operation × Nat)) :
    (x.performAll steps).buffer.capacity = some x.capacity ↔ x.Stays steps := by
  induction steps using List.reverseRecOn with
  | nil => exact iff_of_true hc fun first step hp => by simp at hp
  | append_singleton steps step ih =>
    have hs := h.performAll steps
    rw [performAll_append, stays_append, ← ih]
    cases hb : (x.performAll steps).buffer.isReadOnly with
    | true =>
      rw [hs.perform_of_readOnly hb]
      exact (and_iff_left (not_outgrows_of_readOnly hb _)).symm
    | false =>
      rw [Sized.perform, (leaves_perform _ _).capacity_eq hb hs.le_capacity,
        Option.filter_eq_some_iff]
      refine and_congr_right fun hcap => ?_
      rw [hs.outgrows_iff, ← hs.capacity_eq _ hcap]
      simp [hb]

end Sound

/-! ### What was written since the buffer was emptied -/

/-- How much is written since the buffer was last emptied, if there was so much to begin with. -/
def load (start : Nat) (operations : List Operation) : Nat :=
  operations.foldl (fun n operation => if operation = .clear then 0 else n + written operation)
    start

lemma load_append (start : Nat) (operations : List Operation) (operation : Operation) :
    load start (operations ++ [operation]) =
      if operation = .clear then 0 else load start operations + written operation := by
  simp [load]

lemma writerIndex_performAll {x : Sized} (hb : x.buffer.isReadOnly = false)
    (steps : List (Operation × Nat)) :
    (x.performAll steps).buffer.writerIndex = load x.buffer.writerIndex (steps.map Prod.fst) := by
  induction steps using List.reverseRecOn with
  | nil => rfl
  | append_singleton steps step ih =>
    have hb' := (x.isReadOnly_performAll steps).trans hb
    rw [performAll_append, Sized.perform, (leaves_perform _ _).writerIndex_eq hb', ih,
      List.map_append, List.map_singleton, load_append]

/-- A buffer never grows if what is written between two times that it is emptied is no more than the
memory holds, no matter how much of it is read in between. -/
theorem Sound.stays_iff {x : Sized} (h : x.Sound) (hb : x.buffer.isReadOnly = false)
    (steps : List (Operation × Nat)) :
    x.Stays steps ↔
      ∀ first, first <+: steps → load x.buffer.writerIndex (first.map Prod.fst) ≤ x.capacity := by
  induction steps using List.reverseRecOn with
  | nil =>
    refine iff_of_true (fun first step hp => by simp at hp) fun first hp => ?_
    obtain rfl := List.prefix_nil.mp hp
    exact h.writerIndex_le
  | append_singleton steps step ih =>
    have hs := h.performAll steps
    have hb' := (x.isReadOnly_performAll steps).trans hb
    rw [stays_append, ih]
    simp only [List.prefix_concat_iff, or_imp, forall_and, forall_eq]
    rw [and_comm (a := _ ≤ _)]
    refine and_congr_right fun hload => ?_
    have hsame := ((h.capacity_performAll steps).2).mpr (ih.mpr hload)
    rw [hs.outgrows_iff, hsame, writerIndex_performAll hb, List.map_append, List.map_singleton,
      load_append]
    split
    case isTrue hclear => simp [hclear, written, hload steps (List.prefix_refl _)]
    case isFalse => simp [hb']

end Sized
end BytePool.Buffer
