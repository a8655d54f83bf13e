import BytePool.Proofs.Pool.Serve
import BytePool.Session.Command

/-!
# Refused requests

What is refused can be told from the object and the arguments, and a request that is refused is as
if it had never been made: every object is as it was, down to its indices and marks, and no event
was sent.
-/
namespace BytePool

/-! ### Replies -/

/-- The request is refused in exactly this case, and then leaves the state as it was. -/
structure Reply.RefusedIff {σ α : Type} (reply : Reply σ α) (state : σ) (P : Prop) : Prop where
  refused_iff : (∃ e, reply.outcome = .error (.refused e)) ↔ P
  state_eq : P → reply.state = state
  events_eq : P → reply.events = []

namespace Reply.RefusedIff
variable {σ α β : Type} {reply : Reply σ α} {state : σ} {P : Prop}

lemma never (h : ∀ e, reply.outcome ≠ .error (.refused e)) : reply.RefusedIff state False where
  refused_iff := ⟨fun ⟨e, he⟩ => h e he, False.elim⟩
  state_eq := False.elim
  events_eq := False.elim

lemma always (e : Error) : (Reply.refuse e state : Reply σ α).RefusedIff state True where
  refused_iff := ⟨fun _ => trivial, fun _ => ⟨e, rfl⟩⟩
  state_eq _ := rfl
  events_eq _ := rfl

lemma of_iff {Q : Prop} (h : reply.RefusedIff state P) (hq : P ↔ Q) : reply.RefusedIff state Q :=
  propext hq ▸ h

/-- A check that comes before all else. -/
lemma check [Decidable P] {reply refusal : Reply σ α} (h : reply.RefusedIff state False)
    (he : refusal.RefusedIff state True) :
    (if P then refusal else reply).RefusedIff state P := by
  split
  case isTrue hp => exact he.of_iff (iff_of_true trivial hp)
  case isFalse hp => exact h.of_iff (iff_of_false id hp)

lemma map (h : reply.RefusedIff state P) (f : α → β) : (reply.map f).RefusedIff state P where
  refused_iff := by
    rw [← h.refused_iff]
    cases ho : reply.outcome <;> simp [Reply.map, ho, Except.map]
  state_eq := h.state_eq
  events_eq := h.events_eq

end Reply.RefusedIff

open Reply (RefusedIff)

/-! ### Arenas and pools -/

lemma Arena.carve_ne_refused (arena : Arena) (length : Nat) (e : Error) :
    (arena.carve length).outcome ≠ .error (.refused e) := by
  obtain ⟨_, _, ho, -⟩ | ⟨-, ho⟩ := arena.carve_outcome length <;> simp [ho]

theorem Arena.allocate_refusedIff (arena : Arena) (capacity : Nat) :
    (arena.allocate capacity).RefusedIff arena (capacity = 0 ∨ arena.slabCapacity < capacity) :=
  .check (.never (arena.carve_ne_refused capacity)) (.always _)

namespace Pool

lemma buffer_ne_refused (pool : Pool) (order : ByteOrder) (capacity : Nat) (e : Error) :
    (pool.buffer order capacity).outcome ≠ .error (.refused e) := by
  obtain ⟨-, ho⟩ | ⟨-, -, ho⟩ | ⟨-, -, _, ho, -⟩ | ho := pool.buffer_outcome order capacity <;>
    simp [ho]

/-- A pool refuses ranges that exceed their source, and nothing else. -/
theorem serve_refusedIff (pool : Pool) (request : Request) :
    (pool.serve request).RefusedIff pool (request.exceeds = true) := by
  by_cases hex : request.exceeds = true
  · obtain ⟨e, hserve⟩ := serve_of_exceeds pool request hex
    rw [hserve]
    exact (RefusedIff.always e).of_iff (iff_of_true trivial hex)
  refine RefusedIff.of_iff (.never fun e he => ?_) (iff_of_false id hex)
  by_cases hover : request.handsOver = true
  · obtain ⟨region, spare, -, -, hserve⟩ := serve_of_handsOver pool request hover
    rw [hserve] at he
    cases he
  rw [serve_eq_bind pool request (by simpa using hex) (by simpa using hover)] at he
  cases ho : (pool.buffer (request.order pool.defaultOrder) request.size).outcome with
  | error failure =>
    rw [Reply.bind_of_error ho] at he
    obtain rfl := Except.error.inj he
    exact buffer_ne_refused pool _ _ e ho
  | ok b =>
    rw [Reply.bind_of_ok ho] at he
    obtain ⟨filled, hf, -, -⟩ := outcome_finish request
      (pool.buffer (request.order pool.defaultOrder) request.size).state b
    rw [hf] at he
    cases he

theorem adoptRegion_refusedIff (pool : Pool) (region : Region) :
    (pool.adoptRegion region).RefusedIff pool False :=
  (pool.serve_refusedIff (.adoptRegion region)).of_iff (iff_of_false Bool.false_ne_true id)

theorem copyRegion_refusedIff (pool : Pool) (region : Region) :
    (pool.copyRegion region).RefusedIff (pool, region) False :=
  .never fun e he =>
    Bool.false_ne_true ((pool.serve_refusedIff (.copyRegion region)).refused_iff.mp ⟨e, he⟩)

end Pool

/-! ### Regions -/

namespace Region

theorem setPosition_refusedIff (region : Region) (position : Nat) :
    (region.setPosition position).RefusedIff region (region.length < position) :=
  .check (.never fun _ => nofun) (.always _)

theorem reset_refusedIff (region : Region) :
    region.reset.RefusedIff region (region.mark = none) := by
  unfold reset
  split
  case h_1 mark h => exact RefusedIff.of_iff (.never fun _ => nofun) (by simp [h])
  case h_2 h => exact (RefusedIff.always _).of_iff (by simp [h])

/-! A mark lives from when it is set until the position is put before it. -/

inductive Move where
  | setPosition (position : Nat)
  | setMark
  | reset
  deriving DecidableEq, Repr

/-- What a move leaves, also if it is refused. -/
def move (region : Region) : Move → Region
  | .setPosition position => (region.setPosition position).state
  | .setMark => region.setMark
  | .reset => region.reset.state

def moveAll (region : Region) (moves : List Move) : Region := moves.foldl move region

/-- The mark that the last of all marking moves has set, if no later one went to a position of the
region before it. -/
def MarkedAt (region : Region) (moves : List Move) (mark : Nat) : Prop :=
  ∃ before after, moves = before ++ .setMark :: after ∧ .setMark ∉ after ∧
    mark = (region.moveAll before).position ∧
    ∀ position, .setPosition position ∈ after → position ≤ region.length → mark ≤ position

variable (region : Region) (moves : List Move)

lemma moveAll_append (m : Move) :
    region.moveAll (moves ++ [m]) = (region.moveAll moves).move m := by
  simp [moveAll]

lemma length_move (m : Move) : (region.move m).length = region.length := by
  cases m with
  | setPosition position => simp only [move, setPosition]; split <;> rfl
  | setMark => rfl
  | reset => simp only [move, reset]; split <;> rfl

lemma length_moveAll : (region.moveAll moves).length = region.length := by
  induction moves using List.reverseRecOn with
  | nil => rfl
  | append_singleton moves m ih => rw [moveAll_append, length_move, ih]

lemma markedAt_setMark (mark : Nat) :
    region.MarkedAt (moves ++ [.setMark]) mark ↔ mark = (region.moveAll moves).position := by
  constructor
  · rintro ⟨before, after, heq, hlast, hm, -⟩
    obtain rfl | ⟨after, m, rfl⟩ := after.eq_nil_or_concat
    · rw [hm, (List.append_inj_left' heq rfl)]
    · rw [List.concat_eq_append, ← List.cons_append, ← List.append_assoc] at heq
      obtain ⟨-, rfl⟩ := List.append_singleton_inj.mp heq
      simp at hlast
  · exact fun h => ⟨moves, [], rfl, by simp, h, by simp⟩

lemma markedAt_append {m : Move} (hm : m ≠ .setMark) (mark : Nat) :
    region.MarkedAt (moves ++ [m]) mark ↔ region.MarkedAt moves mark ∧
      ∀ position, m = .setPosition position → position ≤ region.length → mark ≤ position := by
  constructor
  · rintro ⟨before, after, heq, hlast, hmark, hlow⟩
    -- The last of all moves is no marking one, so the one that has set the mark is before it.
    obtain rfl | ⟨after, m', rfl⟩ := after.eq_nil_or_concat
    · exact absurd (List.append_singleton_inj.mp heq).2 hm
    · rw [List.concat_eq_append, ← List.cons_append, ← List.append_assoc] at heq
      obtain ⟨rfl, rfl⟩ := List.append_singleton_inj.mp heq
      refine ⟨⟨before, after, rfl, fun h => hlast (by simp [h]), hmark, fun p hp => ?_⟩, ?_⟩
      · exact hlow p (by simp [hp])
      · rintro p rfl
        exact hlow p (by simp)
  · rintro ⟨⟨before, after, rfl, hlast, hmark, hlow⟩, hnew⟩
    refine ⟨before, after ++ [m], by simp, by simp [hlast, hm.symm], hmark, fun p hp => ?_⟩
    obtain hp | hp := List.mem_append.mp hp
    · exact hlow p hp
    · exact hnew p (List.mem_singleton.mp hp).symm

/-- A region that was made without a mark has one as long as it lives. -/
theorem mark_moveAll (h : region.mark = none) (mark : Nat) :
    (region.moveAll moves).mark = some mark ↔ region.MarkedAt moves mark := by
  induction moves using List.reverseRecOn with
  | nil => simp [moveAll, h, MarkedAt]
  | append_singleton moves m ih =>
    rw [moveAll_append]
    cases m with
    | setMark =>
      rw [markedAt_setMark]
      exact Option.some_inj.trans eq_comm
    | reset =>
      rw [markedAt_append _ _ (by simp), ← ih]
      simp only [move, reset, reduceCtorEq, false_implies, implies_true, and_true]
      split <;> rfl
    | setPosition position =>
      rw [markedAt_append _ _ (by simp), ← ih]
      simp only [move, setPosition, length_moveAll, Move.setPosition.injEq, forall_eq']
      split
      case isTrue hlt => simp [Reply.refuse, Nat.not_le.mpr hlt]
      case isFalse hle => simp [Reply.done, Option.filter_eq_some_iff, Nat.le_of_not_lt hle]

end Region

/-! ### Buffers and slabs -/

namespace Buffer

/-- What a buffer refuses: reads of more than there is, and writes to memory that is not its own. -/
def Refuses (b : Buffer) : Operation → Prop
  | .clear => False
  | .putSlice bytes => b.isReadOnly = true ∧ bytes ≠ []
  | .putNumber _ _ => b.isReadOnly = true
  | .getNumber type => b.readableBytes < type.width
  | .readInto length | .skip length => b.readableBytes < length

lemma put_refusedIff (b : Buffer) (operation : String) (bytes : List UInt8) :
    (b.put operation bytes).RefusedIff b (b.isReadOnly = true) :=
  .check (.never fun _ => nofun) (.always _)

lemma putSlice_refusedIff (b : Buffer) (bytes : List UInt8) :
    (b.putSlice bytes).RefusedIff b (b.isReadOnly = true ∧ bytes ≠ []) := by
  unfold putSlice
  split
  case isTrue h =>
    refine RefusedIff.of_iff (.never fun _ => nofun) (iff_of_false id fun hall => hall.2 ?_)
    exact List.isEmpty_iff.mp h
  case isFalse h =>
    have hne : bytes ≠ [] := fun hnil => h (List.isEmpty_iff.mpr hnil)
    exact (b.put_refusedIff _ bytes).of_iff (and_iff_left hne).symm

lemma take_refusedIff (b : Buffer) (length : Nat) :
    (b.take length).RefusedIff b (b.readableBytes < length) :=
  .check (.never fun _ => nofun) (.always _)

theorem perform_refusedIff (b : Buffer) (operation : Operation) :
    (b.perform operation).RefusedIff b (b.Refuses operation) := by
  cases operation with
  | clear => exact .never fun _ => nofun
  | putSlice bytes => exact (b.putSlice_refusedIff bytes).map _
  | putNumber type value => exact (b.put_refusedIff _ _).map _
  | getNumber type => exact ((b.take_refusedIff _).map _).map _
  | readInto length => exact (b.take_refusedIff length).map _
  | skip length => exact ((b.take_refusedIff length).map _).map _

end Buffer

namespace Slab

lemma carve?_refusedIff (slab : Slab) (length : Nat) :
    (slab.carve? length).RefusedIff slab False := by
  refine .never fun e => ?_
  unfold carve?
  split <;> nofun

end Slab

end BytePool
