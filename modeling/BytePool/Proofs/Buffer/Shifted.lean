import BytePool.Buffer.Operation
import BytePool.Proofs.Checked.Attempt

/-!
# Buffers that stand apart

Two buffers with the same bytes to read may have their indices some way apart. No operation closes
the distance but one that empties the buffer, and until then no operation shows it but by the
numbers of an error.
-/
namespace BytePool.Buffer

/-! ### The distance -/

/-- The buffers hold the same and the first one is so much further on. Where their memory came from
and how much of it there is makes no difference. -/
structure Shifted (n : Nat) (b c : Buffer) : Prop where
  order_eq : b.order = c.order
  isReadOnly_eq : b.isReadOnly = c.isReadOnly
  readable_eq : b.readable = c.readable
  readerIndex_eq : b.readerIndex = c.readerIndex + n
  writerIndex_eq : b.writerIndex = c.writerIndex + n

/-- The distance that is left after some operations. -/
def distance (n : Nat) (operations : List Operation) : Nat :=
  if .clear ∈ operations then 0 else n

/-- The distances before each of some operations. -/
def distances (n : Nat) : List Operation → List Nat
  | [] => []
  | operation :: operations => n :: distances (distance n [operation]) operations

/-- An outcome with the ends in its error so much further on. The end that was asked for is reported
as the greatest word if no word can hold it. -/
def moveEnds (n : Nat) : Except Failure Result → Except Failure Result
  | .error (.refused (.indexOutOfRange field value bound)) =>
    .error (.refused (.indexOutOfRange field (min maxWord (value + n)) (bound + n)))
  | outcome => outcome

lemma distance_cons (n : Nat) (operation : Operation) (operations : List Operation) :
    distance n (operation :: operations) = distance (distance n [operation]) operations := by
  simp only [distance, List.mem_cons, List.not_mem_nil, or_false]
  split_ifs <;> simp_all

/-! ### Operations -/

namespace Shifted
variable {n : Nat} {b c : Buffer}

lemma of_reader (horder : b.order = c.order) (hreadOnly : b.isReadOnly = c.isReadOnly)
    (hreadable : b.readable = c.readable) (hreader : b.readerIndex = c.readerIndex + n) :
    Shifted n b c := by
  refine ⟨horder, hreadOnly, hreadable, hreader, ?_⟩
  rw [writerIndex, writerIndex, hreadable, hreader, Nat.add_right_comm]

variable (h : Shifted n b c)
include h

lemma clear : Shifted 0 b.clear c.clear := of_reader h.order_eq h.isReadOnly_eq rfl rfl

lemma append (bytes : List UInt8) : Shifted n (b.append bytes) (c.append bytes) :=
  of_reader h.order_eq h.isReadOnly_eq (congrArg (· ++ bytes) h.readable_eq) h.readerIndex_eq

lemma put (name : String) (bytes : List UInt8) :
    ((b.put name bytes).map fun _ => Result.nothing).outcome =
        moveEnds n ((c.put name bytes).map fun _ => Result.nothing).outcome ∧
      Shifted n (b.put name bytes).state (c.put name bytes).state := by
  unfold Buffer.put
  rw [h.isReadOnly_eq]
  split
  · exact ⟨rfl, h⟩
  · exact ⟨rfl, h.append bytes⟩

lemma take (length : Nat) (f : List UInt8 → Result) :
    ((b.take length).map f).outcome = moveEnds n ((c.take length).map f).outcome ∧
      Shifted n (b.take length).state (c.take length).state := by
  unfold Buffer.take
  rw [h.readable_eq, h.readerIndex_eq, h.writerIndex_eq]
  split
  case isTrue =>
    refine ⟨?_, h⟩
    have hend : min maxWord (c.readerIndex + n + length) =
        min maxWord (min maxWord (c.readerIndex + length) + n) := by omega
    simp [Reply.map, Reply.refuse, Except.map, moveEnds, hend]
  case isFalse =>
    exact ⟨rfl, of_reader h.order_eq h.isReadOnly_eq rfl (Nat.add_right_comm ..)⟩

/-- One operation keeps the distance or closes it, and shows it at most in its error. -/
theorem perform (operation : Operation) :
    (b.perform operation).outcome = moveEnds n (c.perform operation).outcome ∧
      Shifted (distance n [operation]) (b.perform operation).state
        (c.perform operation).state := by
  cases operation with
  | clear => exact ⟨rfl, h.clear⟩
  | putSlice bytes =>
    simp only [Buffer.perform, Buffer.putSlice]
    split
    · exact ⟨rfl, h⟩
    · exact h.put "put_slice" bytes
  | putNumber type value =>
    simp only [Buffer.perform, Buffer.putNumber, h.order_eq]
    exact h.put _ _
  | getNumber type =>
    simp only [Buffer.perform, Buffer.getNumber, Reply.map_map, h.order_eq]
    exact h.take type.width _
  | readInto length => exact h.take length .bytes
  | skip length =>
    simp only [Buffer.perform, Buffer.skip, Reply.map_map]
    exact h.take length _

/-- Through a run of operations the distance is kept until the buffer is emptied. -/
theorem performAll (operations : List Operation) :
    (b.performAll operations).1 =
        List.zipWith moveEnds (distances n operations) (c.performAll operations).1 ∧
      Shifted (distance n operations) (b.performAll operations).2
        (c.performAll operations).2 := by
  induction operations generalizing n b c with
  | nil => exact ⟨rfl, h⟩
  | cons operation operations ih =>
    obtain ⟨houtcome, hnext⟩ := h.perform operation
    obtain ⟨hlater, hlast⟩ := ih hnext
    rw [distance_cons]
    exact ⟨congrArg₂ List.cons houtcome hlater, hlast⟩

end Shifted

/-! ### Runs -/

/-- What is done to two buffers gives the same on both, up to the ends in errors, and leaves the
same bytes. -/
structure Parallel (n : Nat) (b c : Buffer) : Prop where
  answers : ∀ operations, (b.performAll operations).1 =
    List.zipWith moveEnds (distances n operations) (c.performAll operations).1
  shifted : ∀ operations, Shifted (distance n operations) (b.performAll operations).2
    (c.performAll operations).2
  frozen : ∀ operations, (b.performAll operations).2.freeze = (c.performAll operations).2.freeze

lemma Shifted.parallel {n : Nat} {b c : Buffer} (h : Shifted n b c) : Parallel n b c where
  answers operations := (h.performAll operations).1
  shifted operations := (h.performAll operations).2
  frozen operations := (h.performAll operations).2.readable_eq

end BytePool.Buffer
