import BytePool.Proofs.Carving.Layout
import BytePool.Proofs.Checked.Arena

/-!
# Chunks of a slab

Whatever lengths a slab is asked for, the chunks that it grants lie side by side from its first byte
on. A request is granted exactly if there is room behind the chunks before it, and one that is
refused leaves no trace.
-/
namespace BytePool

/-! ### Chunks side by side -/

/-- The place of the memory of a chunk in the slab of an id. -/
def Chunk.slice (id : Nat) (chunk : Chunk) : Slice := ⟨id, chunk.offset, chunk.capacity⟩

/-- Memory cut into one chunk after the other, with the first of them at an offset. -/
def chunksFrom (offset : Nat) (blank : Blank) : List Nat → List Chunk
  | [] => []
  | length :: lengths =>
    let (front, rest) := blank.splitTo length
    ⟨front, offset⟩ :: chunksFrom (offset + length) rest lengths

section ChunksFrom
variable (id offset : Nat) (blank : Blank) (lengths : List Nat)

lemma map_capacity_chunksFrom :
    (chunksFrom offset blank lengths).map (·.capacity) = lengths := by
  induction lengths generalizing offset blank with
  | nil => rfl
  | cons length lengths ih => exact congrArg (length :: ·) (ih _ _)

/-- As long as there are bytes, the chunks are full of them. -/
lemma map_length_chunksFrom (h : lengths.sum ≤ blank.bytes.length) :
    (chunksFrom offset blank lengths).map (·.bytes.length) = lengths := by
  induction lengths generalizing offset blank with
  | nil => rfl
  | cons length lengths ih =>
    rw [List.sum_cons] at h
    have hrest : lengths.sum ≤ (blank.splitTo length).2.bytes.length := by
      simp only [Blank.splitTo, Block.splitTo, List.length_drop]
      omega
    have hfront : (blank.splitTo length).1.bytes.length = length :=
      Block.length_splitTo (by omega)
    rw [chunksFrom, List.map_cons, ih _ _ hrest, hfront]

lemma tiles_chunksFrom : Slice.Tiles offset
    ((chunksFrom offset blank lengths).map (Chunk.slice id)) (offset + lengths.sum) := by
  induction lengths generalizing offset blank with
  | nil => rfl
  | cons length lengths ih =>
    have hrest := ih (offset + length) (blank.splitTo length).2
    rw [Nat.add_assoc, ← List.sum_cons] at hrest
    exact ⟨rfl, hrest⟩

lemma offset_of_getElem? {i : Nat} {chunk : Chunk}
    (h : (chunksFrom offset blank lengths)[i]? = some chunk) :
    chunk.offset = offset + (lengths.take i).sum := by
  induction lengths generalizing offset blank i with
  | nil => cases h
  | cons length lengths ih =>
    cases i with
    | zero =>
      obtain rfl := Option.some.inj h
      rfl
    | succ i => rw [ih _ _ h, List.take_succ_cons, List.sum_cons, Nat.add_assoc]

/-- Each chunk has the bytes that are at its place in the memory. -/
lemma bytes_of_mem {chunk : Chunk} (h : chunk ∈ chunksFrom offset blank lengths) :
    offset ≤ chunk.offset ∧
      chunk.bytes = (blank.bytes.drop (chunk.offset - offset)).take chunk.capacity := by
  induction lengths generalizing offset blank with
  | nil => cases h
  | cons length lengths ih =>
    obtain rfl | h := List.mem_cons.mp h
    · exact ⟨le_rfl, by rw [Nat.sub_self]; rfl⟩
    · obtain ⟨hle, hbytes⟩ := ih _ _ h
      have hplace : length + (chunk.offset - (offset + length)) = chunk.offset - offset := by omega
      refine ⟨by omega, ?_⟩
      rw [hbytes, ← hplace, ← List.drop_drop]
      rfl

lemma apart_chunksFrom :
    ((chunksFrom offset blank lengths).map (Chunk.slice id)).Pairwise Slice.Apart := by
  induction lengths generalizing offset blank with
  | nil => exact .nil
  | cons length lengths ih =>
    refine .cons (fun s hs _ => ?_) (ih _ _)
    obtain ⟨chunk, hchunk, rfl⟩ := List.mem_map.mp hs
    exact .inl (bytes_of_mem _ _ _ hchunk).1

/-- One after the other, the chunks have the first bytes of the memory. -/
lemma flatMap_chunksFrom :
    (chunksFrom offset blank lengths).flatMap (·.bytes) = blank.bytes.take lengths.sum := by
  induction lengths generalizing offset blank with
  | nil => rfl
  | cons length lengths ih =>
    rw [chunksFrom, List.flatMap_cons, ih, List.sum_cons, List.take_add]
    rfl

end ChunksFrom

/-! ### Runs of a slab -/

namespace Slab

/-- What came of a run of requests. -/
structure Run where
  outcomes : List (Except Failure (Option Chunk))
  state : Slab

/-- Carves off one length after the other, as far as there is room. -/
def run (slab : Slab) : List Nat → Run
  | [] => ⟨[], slab⟩
  | length :: lengths =>
    let reply := slab.carve? length
    let later := reply.state.run lengths
    ⟨reply.outcome :: later.outcomes, later.state⟩

/-- The chunk that was carved off, if one was. -/
def chunkOf : Except Failure (Option Chunk) → Option Chunk
  | .ok found => found
  | .error _ => none

/-- The requests of a run, each with what came of it. -/
def log (slab : Slab) (lengths : List Nat) : List (Nat × Except Failure (Option Chunk)) :=
  lengths.zip (slab.run lengths).outcomes

/-- The requests that got a chunk. -/
def grants (log : List (Nat × Except Failure (Option Chunk))) : List Nat :=
  (log.filter fun entry => (chunkOf entry.2).isSome).map Prod.fst

/-- The chunks in the sequence of their requests. -/
def chunks (log : List (Nat × Except Failure (Option Chunk))) : List Chunk :=
  log.filterMap fun entry => chunkOf entry.2

section Entries
variable (length : Nat) (chunk : Chunk) (log : List (Nat × Except Failure (Option Chunk)))

@[simp] lemma grants_cons_some :
    grants ((length, .ok (some chunk)) :: log) = length :: grants log := rfl

@[simp] lemma grants_cons_none : grants ((length, .ok none) :: log) = grants log := rfl

@[simp] lemma chunks_cons_some :
    chunks ((length, .ok (some chunk)) :: log) = chunk :: chunks log := rfl

@[simp] lemma chunks_cons_none : chunks ((length, .ok none) :: log) = chunks log := rfl

end Entries

variable (slab : Slab)

@[simp] lemma length_outcomes_run (lengths : List Nat) :
    (slab.run lengths).outcomes.length = lengths.length := by
  induction lengths generalizing slab with
  | nil => rfl
  | cons length lengths ih => simp [run, ih]

@[simp] lemma length_log (lengths : List Nat) : (slab.log lengths).length = lengths.length := by
  simp [log]

lemma run_append (first later : List Nat) :
    slab.run (first ++ later) =
      ⟨(slab.run first).outcomes ++ ((slab.run first).state.run later).outcomes,
        ((slab.run first).state.run later).state⟩ := by
  induction first generalizing slab with
  | nil => rfl
  | cons length lengths ih => simp [run, ih]

lemma log_append (first later : List Nat) :
    slab.log (first ++ later) = slab.log first ++ (slab.run first).state.log later := by
  rw [log, run_append, List.zip_append (by simp)]
  rfl

/-- What came of the first requests does not depend on the later ones. -/
lemma log_take (lengths : List Nat) (i : Nat) :
    (slab.log lengths).take i = slab.log (lengths.take i) := by
  obtain hle | hlt := le_or_gt i lengths.length
  · conv_lhs => rw [← List.take_append_drop i lengths, log_append]
    exact List.take_left' (by simp [hle])
  · rw [List.take_of_length_le hlt.le, List.take_of_length_le (by simpa using hlt.le)]

/-- One request of a run is what it is to the slab that the requests before it left. -/
lemma outcome_of_log {lengths : List Nat} {i length : Nat}
    {outcome : Except Failure (Option Chunk)}
    (h : (slab.log lengths)[i]? = some (length, outcome)) :
    outcome = ((slab.run (lengths.take i)).state.carve? length).outcome := by
  have hlt : i < lengths.length := by
    simpa using (List.getElem?_eq_some_iff.mp h).1
  have hfirst : (slab.log (lengths.take i)).length = i := by simp [hlt.le]
  rw [← List.take_append_drop i lengths, List.drop_eq_getElem_cons hlt, log_append,
    List.getElem?_append_right hfirst.le, hfirst, Nat.sub_self] at h
  obtain ⟨rfl, rfl⟩ := Prod.mk.inj (Option.some.inj h)
  rfl

/-! ### What is granted -/

section Cons
variable {slab} {length : Nat} (lengths : List Nat)

lemma log_cons_of_le (h : length ≤ slab.remaining) :
    slab.log (length :: lengths) =
      (length, .ok (some (slab.carve length).1)) :: (slab.carve length).2.log lengths := by
  rw [log, run, carve?_of_le h]
  rfl

lemma log_cons_of_lt (h : slab.remaining < length) :
    slab.log (length :: lengths) = (length, .ok none) :: slab.log lengths := by
  rw [log, run, carve?_of_remaining_lt h]
  rfl

lemma run_cons_of_le (h : length ≤ slab.remaining) :
    slab.run (length :: lengths) =
      ⟨.ok (some (slab.carve length).1) :: ((slab.carve length).2.run lengths).outcomes,
        ((slab.carve length).2.run lengths).state⟩ := by
  rw [run, carve?_of_le h]
  rfl

lemma state_run_cons_of_lt (h : slab.remaining < length) :
    (slab.run (length :: lengths)).state = (slab.run lengths).state := by
  rw [run, carve?_of_remaining_lt h]
  rfl

end Cons

/-- The slab is left as if all that it grants were carved off at once. -/
lemma state_run (lengths : List Nat) :
    (grants (slab.log lengths)).sum ≤ slab.remaining ∧
      (slab.run lengths).state = (slab.carve (grants (slab.log lengths)).sum).2 := by
  induction lengths generalizing slab with
  | nil => exact ⟨Nat.zero_le _, rfl⟩
  | cons length lengths ih =>
    obtain hle | hlt := le_or_gt length slab.remaining
    · obtain ⟨hsum, hstate⟩ := ih (slab.carve length).2
      rw [remaining_carve] at hsum
      rw [log_cons_of_le lengths hle, grants_cons_some, List.sum_cons, run_cons_of_le lengths hle,
        ← carve_carve]
      exact ⟨by omega, hstate⟩
    · rw [log_cons_of_lt lengths hlt, grants_cons_none, state_run_cons_of_lt lengths hlt]
      exact ih slab

lemma cursor_run (lengths : List Nat) :
    (slab.run lengths).state.cursor = slab.cursor + (grants (slab.log lengths)).sum := by
  rw [(slab.state_run lengths).2]
  rfl

/-- What the cursor gains, the tail loses. -/
lemma capacity_run (lengths : List Nat) : (slab.run lengths).state.capacity = slab.capacity := by
  obtain ⟨hsum, hstate⟩ := slab.state_run lengths
  have hremaining := slab.remaining_carve (grants (slab.log lengths)).sum
  rw [← hstate] at hremaining
  rw [capacity, capacity, cursor_run, hremaining]
  omega

lemma cursor_le_run_append (first later : List Nat) :
    (slab.run first).state.cursor ≤ (slab.run (first ++ later)).state.cursor := by
  rw [run_append]
  exact (Nat.le_add_right _ _).trans_eq ((slab.run first).state.cursor_run later).symm

/-- How much was granted before a request decides what comes of it. -/
lemma outcome_carve? {before : Nat} (h : before ≤ slab.remaining) (length : Nat) :
    ((slab.carve before).2.carve? length).outcome =
      .ok (if before + length ≤ slab.remaining then
        some ⟨⟨(slab.tail.bytes.drop before).take length, length⟩, slab.cursor + before⟩
      else none) := by
  have hremaining := slab.remaining_carve before
  obtain hle | hlt := le_or_gt (before + length) slab.remaining
  · rw [if_pos hle, carve?_of_le (by omega)]
    rfl
  · rw [if_neg (Nat.not_le.mpr hlt), carve?_of_remaining_lt (by omega)]
    rfl

lemma outcome_log {lengths : List Nat} {i length : Nat} {outcome : Except Failure (Option Chunk)}
    (h : (slab.log lengths)[i]? = some (length, outcome)) :
    outcome =
      .ok (if (grants ((slab.log lengths).take i)).sum + length ≤ slab.remaining then
        some ⟨⟨(slab.tail.bytes.drop (grants ((slab.log lengths).take i)).sum).take length, length⟩,
          slab.cursor + (grants ((slab.log lengths).take i)).sum⟩
      else none) := by
  obtain ⟨hsum, hstate⟩ := slab.state_run (lengths.take i)
  rw [slab.outcome_of_log h, log_take, hstate, slab.outcome_carve? hsum]

/-- The chunks that are granted are cut from the memory one after the other. -/
lemma chunks_log (lengths : List Nat) :
    chunks (slab.log lengths) = chunksFrom slab.cursor slab.tail (grants (slab.log lengths)) := by
  induction lengths generalizing slab with
  | nil => rfl
  | cons length lengths ih =>
    obtain hle | hlt := le_or_gt length slab.remaining
    · rw [log_cons_of_le lengths hle, chunks_cons_some, grants_cons_some, ih]
      rfl
    · rw [log_cons_of_lt lengths hlt, chunks_cons_none, grants_cons_none, ih]

lemma map_capacity_chunks (lengths : List Nat) :
    (chunks (slab.log lengths)).map (·.capacity) = grants (slab.log lengths) := by
  rw [chunks_log, map_capacity_chunksFrom]

lemma flatMap_chunks (lengths : List Nat) :
    (chunks (slab.log lengths)).flatMap (·.bytes) =
      slab.tail.bytes.take (grants (slab.log lengths)).sum := by
  rw [chunks_log, flatMap_chunksFrom]

/-- The memory that was cut had never been written to. -/
lemma zero_of_mem_chunks {lengths : List Nat} {chunk : Chunk}
    (h : chunk ∈ chunks (slab.log lengths)) : ∀ byte ∈ chunk.bytes, byte = 0 := by
  intro byte hbyte
  have hmem : byte ∈ (chunks (slab.log lengths)).flatMap (·.bytes) :=
    List.mem_flatMap.mpr ⟨chunk, h, hbyte⟩
  rw [flatMap_chunks] at hmem
  exact slab.tail.zero byte (List.mem_of_mem_take hmem)

/-- Without the requests that were refused, the run is the same. -/
lemma run_grants (lengths : List Nat) :
    slab.run (grants (slab.log lengths)) =
      ⟨(chunks (slab.log lengths)).map fun chunk => .ok (some chunk),
        (slab.run lengths).state⟩ := by
  induction lengths generalizing slab with
  | nil => rfl
  | cons length lengths ih =>
    obtain hle | hlt := le_or_gt length slab.remaining
    · rw [log_cons_of_le lengths hle, grants_cons_some, chunks_cons_some, run_cons_of_le _ hle, ih,
        run_cons_of_le lengths hle]
      rfl
    · rw [log_cons_of_lt lengths hlt, grants_cons_none, chunks_cons_none, ih,
        state_run_cons_of_lt lengths hlt]

end Slab

/-! ### Slabs as they are stored -/

namespace Checked.Slab

def run (slab : Slab) :
    List Nat → Except Fault (List (Except Failure (Option Chunk)) × Slab)
  | [] => .ok ([], slab)
  | length :: lengths => do
    let reply ← slab.carve? length
    let (outcomes, last) ← reply.state.run lengths
    return (reply.outcome :: outcomes, last)

/-- No check fails in a run, and it is the run of the slab that is shown. -/
lemma run_follows {slab : Slab} (h : slab.Sound) (lengths : List Nat) :
    ∃ last, slab.run lengths = .ok ((slab.view.run lengths).outcomes, last) ∧ last.Sound ∧
      last.view = (slab.view.run lengths).state := by
  induction lengths generalizing slab with
  | nil => exact ⟨slab, rfl, h, rfl⟩
  | cons length lengths ih =>
    obtain ⟨reply, heq, hsound, -, hreply⟩ := carve?_follows h length
    have hstate : (slab.view.carve? length).state = reply.state.view := by rw [hreply]; rfl
    have houtcome : (slab.view.carve? length).outcome = reply.outcome := by
      rw [hreply]
      cases ho : reply.outcome <;>
        simp [Reply.map, Reply.within, ho, Except.map, Abstraction.such]
    obtain ⟨last, hlast, hs, hv⟩ := ih hsound
    refine ⟨last, ?_, hs, ?_⟩
    · simp [run, BytePool.Slab.run, heq, hlast, bind, Except.bind, hstate, houtcome, pure,
        Except.pure]
    · rw [hv, BytePool.Slab.run, hstate]

end Checked.Slab

/-! ### All runs -/

namespace Slab

/-- A new slab can be stored, and no check fails in a run of what is stored. -/
lemma exists_stored {id capacity : Nat} {slab : Slab} (hnew : allocate id capacity = .ok slab)
    (lengths : List Nat) :
    ∃ stored last, Checked.Slab.allocate id capacity = .ok stored ∧
      stored.run lengths = .ok ((slab.run lengths).outcomes, last) ∧
      last.shown = .ok (slab.run lengths).state := by
  obtain ⟨stored, heq, hsound, -, hview⟩ | ⟨-, hover⟩ := Checked.Slab.allocate_eq id capacity
  · have hstored : stored.view = slab := Except.ok.inj (hview.symm.trans hnew)
    obtain ⟨last, hrun, hlast, hv⟩ := Checked.Slab.run_follows hsound lengths
    rw [hstored] at hrun hv
    exact ⟨stored, last, heq, hrun, hv ▸ Checked.Slab.shown_eq hlast⟩
  · cases hnew.symm.trans hover

/-- All that comes of a run of requests to a new slab. -/
structure Carved (slab : Slab) (capacity : Nat) (lengths : List Nat) : Prop where
  /-- A new slab has memory for all its bytes, and all of them are zero. -/
  whole : slab.cursor = 0 ∧ slab.tail.capacity = capacity ∧
    slab.tail.bytes = List.replicate capacity 0
  requests_eq : (slab.log lengths).map Prod.fst = lengths
  /-- A request gets the bytes behind all that was granted before it, if they are there. -/
  answered : ∀ i length outcome, (slab.log lengths)[i]? = some (length, outcome) →
    let before := (grants ((slab.log lengths).take i)).sum
    outcome =
      .ok (if before + length ≤ capacity then
        some ⟨⟨(slab.tail.bytes.drop before).take length, length⟩, before⟩
      else none)
  /-- What the slab shows after each of the requests. -/
  shown : ∀ i, let last := (slab.run (lengths.take i)).state
    last.id = slab.id ∧ last.capacity = capacity ∧ last.cursor + last.remaining = capacity ∧
      last.cursor = (grants ((slab.log lengths).take i)).sum
  ascending : ∀ i j, i ≤ j →
    (slab.run (lengths.take i)).state.cursor ≤ (slab.run (lengths.take j)).state.cursor
  lengths_eq : (chunks (slab.log lengths)).map (·.bytes.length) = grants (slab.log lengths)
  capacities_eq : (chunks (slab.log lengths)).map (·.capacity) = grants (slab.log lengths)
  offset_eq : ∀ i chunk, (chunks (slab.log lengths))[i]? = some chunk →
    chunk.offset = ((grants (slab.log lengths)).take i).sum
  /-- A chunk has the bytes that are at its place in the slab. -/
  place_eq : ∀ chunk ∈ chunks (slab.log lengths),
    chunk.bytes = (slab.tail.bytes.drop chunk.offset).take chunk.capacity
  zero : ∀ chunk ∈ chunks (slab.log lengths), ∀ byte ∈ chunk.bytes, byte = 0
  tiled : Slice.Tiles 0 ((chunks (slab.log lengths)).map (Chunk.slice slab.id))
    (slab.run lengths).state.cursor
  apart : ((chunks (slab.log lengths)).map (Chunk.slice slab.id)).Pairwise Slice.Apart
  bytes_eq : (chunks (slab.log lengths)).flatMap (·.bytes) =
    slab.tail.bytes.take (slab.run lengths).state.cursor
  /-- The memory of the slab is the chunks and what is left of it. -/
  memory_eq : (chunks (slab.log lengths)).flatMap (·.bytes) ++
      (slab.run lengths).state.tail.bytes = slab.tail.bytes ∧
    ((chunks (slab.log lengths)).map (·.capacity)).sum +
      (slab.run lengths).state.tail.capacity = slab.tail.capacity
  /-- The requests that were refused make no difference. -/
  spared : slab.run (grants (slab.log lengths)) =
    ⟨(chunks (slab.log lengths)).map fun chunk => .ok (some chunk), (slab.run lengths).state⟩
  /-- The cursor is computed from the tail, and no difference on the way falls below zero. -/
  stored : ∃ stored last, Checked.Slab.allocate slab.id capacity = .ok stored ∧
    stored.run lengths = .ok ((slab.run lengths).outcomes, last) ∧
    last.shown = .ok (slab.run lengths).state

/-- The chunks of a slab are carved side by side from its first byte on, and no request that is
refused makes a difference to any other. -/
theorem run_carved (id : Nat) {capacity : Nat} (hmax : capacity ≤ maxAllocation)
    (lengths : List Nat) :
    ∃ slab, allocate id capacity = .ok slab ∧ slab.Carved capacity lengths := by
  have hnew : allocate id capacity = .ok ⟨id, 0, .zeroed capacity⟩ := if_neg (Nat.not_lt.mpr hmax)
  refine ⟨_, hnew, ?_⟩
  set slab : Slab := ⟨id, 0, .zeroed capacity⟩
  have hwhole : slab.remaining = capacity := remaining_mk id 0 capacity
  have hchunks : chunks (slab.log lengths) = chunksFrom 0 slab.tail (grants (slab.log lengths)) :=
    slab.chunks_log lengths
  have hsum : (grants (slab.log lengths)).sum ≤ slab.remaining := (slab.state_run lengths).1
  have hcursor (lengths : List Nat) :
      (slab.run lengths).state.cursor = (grants (slab.log lengths)).sum :=
    (slab.cursor_run lengths).trans (Nat.zero_add _)
  constructor
  case whole => exact ⟨rfl, rfl, rfl⟩
  case requests_eq => exact List.map_fst_zip (by simp)
  case answered =>
    intro i length outcome h
    rw [slab.outcome_log h, hwhole]
    simp only [slab, Nat.zero_add]
  case shown =>
    intro i
    have hfull : (slab.run (lengths.take i)).state.capacity = capacity := by
      rw [capacity_run, Slab.capacity, hwhole]
      exact Nat.zero_add capacity
    rw [slab.log_take]
    refine ⟨?_, hfull, hfull, hcursor _⟩
    rw [(slab.state_run _).2]
    rfl
  case ascending =>
    intro i j hle
    have hlater := slab.cursor_le_run_append (lengths.take i) ((lengths.drop i).take (j - i))
    rwa [← List.take_add, Nat.add_sub_of_le hle] at hlater
  case lengths_eq =>
    rw [hchunks]
    exact map_length_chunksFrom _ _ _ hsum
  case capacities_eq => exact slab.map_capacity_chunks lengths
  case offset_eq =>
    intro i chunk h
    rw [hchunks] at h
    rw [offset_of_getElem? _ _ _ h, Nat.zero_add]
  case place_eq =>
    rw [hchunks]
    exact fun chunk h => (bytes_of_mem _ _ _ h).2
  case zero => exact fun chunk h => slab.zero_of_mem_chunks h
  case tiled =>
    rw [hchunks, hcursor]
    simpa using tiles_chunksFrom id 0 slab.tail (grants (slab.log lengths))
  case apart =>
    rw [hchunks]
    exact apart_chunksFrom id 0 _ _
  case bytes_eq => rw [flatMap_chunks, hcursor]
  case memory_eq =>
    rw [flatMap_chunks, map_capacity_chunks, (slab.state_run lengths).2]
    exact ⟨List.take_append_drop _ _, Nat.add_sub_of_le (hsum.trans_eq slab.tail.filled)⟩
  case spared => exact slab.run_grants lengths
  case stored => exact exists_stored hnew lengths

/-- Two requests that fill a slab, with one of nothing between them, and two that are refused, one
of them for more than any slab has. -/
theorem run_carved_of_five :
    8 ≤ maxAllocation ∧ ∃ slab : Slab, allocate 7 8 = .ok slab ∧
      slab.Carved 8 [5, maxWord, 0, 4, 3] ∧
      grants (slab.log [5, maxWord, 0, 4, 3]) = [5, 0, 3] ∧
      (chunks (slab.log [5, maxWord, 0, 4, 3])).map (·.capacity) = [5, 0, 3] ∧
      (slab.run [5, maxWord, 0, 4, 3]).state = ⟨7, 8, .zeroed 0⟩ := by
  have hmax : 8 ≤ maxAllocation := by decide
  obtain ⟨slab, hnew, hcarved⟩ := run_carved 7 hmax [5, maxWord, 0, 4, 3]
  obtain rfl := Except.ok.inj hnew
  exact ⟨hmax, _, hnew, hcarved, by decide, by decide, by decide⟩

end Slab
end BytePool
