import BytePool.Proofs.Buffer.Growth
import BytePool.Proofs.Pool.Ways
import BytePool.Proofs.Session.Invariant

/-!
# The shared empty buffer

All requests of no bytes get the same buffer, and no operation ever changes it. It is the only one
that refuses to be written: a buffer from anywhere else takes whatever is put.
-/
namespace BytePool

namespace Buffer

/-! ### Operations on the empty buffer -/

/-- What an operation on the empty buffer hands back. -/
def Operation.onEmpty : Operation → Except Failure Result
  | .clear => .ok .nothing
  | .putSlice bytes =>
    if bytes = [] then .ok .nothing else .error (.refused (.readOnly "put_slice"))
  | .putNumber type _ => .error (.refused (.readOnly ("put_" ++ type.name)))
  | .getNumber type => .error (.refused (.indexOutOfRange "reader_index" type.width 0))
  | .readInto length =>
    if length = 0 then .ok (.bytes [])
    else .error (.refused (.indexOutOfRange "reader_index" length 0))
  | .skip length =>
    if length = 0 then .ok .nothing
    else .error (.refused (.indexOutOfRange "reader_index" length 0))

/-- A machine word holds the length that is asked for. -/
def Operation.InWord : Operation → Prop
  | .readInto length | .skip length => length ≤ maxWord
  | .clear | .putSlice _ | .putNumber _ _ | .getNumber _ => True

lemma take_empty {length : Nat} (h : length ≤ maxWord) :
    empty.take length = if length = 0 then .done [] empty
      else .refuse (.indexOutOfRange "reader_index" length 0) empty := by
  have hstop : min maxWord (empty.readerIndex + length) = length := by
    simpa [empty] using h
  unfold take
  rw [hstop]
  obtain rfl | hpos := Nat.eq_zero_or_pos length
  · rfl
  · have hshort : empty.readable.length < length := hpos
    rw [if_pos hshort, if_neg hpos.ne']
    rfl

/-- No operation changes the empty buffer or sends an event. -/
theorem perform_empty {op : Operation} (h : op.InWord) :
    empty.perform op = ⟨op.onEmpty, empty, []⟩ := by
  cases op with
  | clear => rfl
  | putSlice bytes => cases bytes <;> rfl
  | putNumber type value => rfl
  | getNumber type => cases type <;> rfl
  | readInto length =>
    simp only [perform, take_empty h, Operation.onEmpty]
    split <;> rfl
  | skip length =>
    simp only [perform, skip, take_empty h, Operation.onEmpty]
    split <;> rfl

theorem performAll_empty {operations : List Operation} (h : ∀ op ∈ operations, op.InWord) :
    empty.performAll operations = (operations.map Operation.onEmpty, empty) := by
  induction operations with
  | nil => rfl
  | cons op operations ih =>
    obtain ⟨hop, hrest⟩ := List.forall_mem_cons.mp h
    simp only [performAll, perform_empty hop, ih hrest, List.map_cons]

/-! ### All other buffers -/

/-- The buffer is the shared empty one, or else it can be written. -/
def EmptyOrWritable (b : Buffer) : Prop :=
  b = empty ∨ b.isReadOnly = false ∧ b.origin ≠ .sharedEmpty

lemma EmptyOrWritable.perform {b : Buffer} (h : b.EmptyOrWritable) (op : Operation) :
    (b.perform op).state.EmptyOrWritable := by
  have hleaves := b.leaves_perform op
  obtain rfl | ⟨hwritable, horigin⟩ := h
  · exact .inl (hleaves.inert rfl rfl)
  · exact .inr ⟨hleaves.isReadOnly_eq.trans hwritable, (origin_perform b op).symm ▸ horigin⟩

/-- To refuse writes, to be shared and to come from no memory is one and the same, and a buffer that
is not so takes every write. -/
structure SealedIffEmpty (b : Buffer) : Prop where
  readOnly_iff : b.isReadOnly = true ↔ b.isSharedEmpty = true
  shared_iff : b.isSharedEmpty = true ↔ b.origin = .sharedEmpty
  eq_empty : b.origin = .sharedEmpty → b = empty
  writes : b.origin ≠ .sharedEmpty →
    (∀ bytes, (b.perform (.putSlice bytes)).outcome = .ok .nothing) ∧
      ∀ type value, (b.perform (.putNumber type value)).outcome = .ok .nothing

lemma EmptyOrWritable.sealedIffEmpty {b : Buffer} (h : b.EmptyOrWritable) : b.SealedIffEmpty := by
  obtain rfl | ⟨hwritable, horigin⟩ := h
  · exact ⟨by decide, by decide, fun _ => rfl, fun h => absurd rfl h⟩
  · have hshared : b.isSharedEmpty = false := decide_eq_false horigin
    constructor
    case readOnly_iff => rw [hwritable, hshared]
    case shared_iff => exact iff_of_false (by simp [hshared]) horigin
    case eq_empty => exact fun h => absurd h horigin
    case writes =>
      refine fun _ => ⟨fun bytes => ?_, fun type value => ?_⟩
      · rw [Buffer.perform, putSlice_of_writable hwritable]
        rfl
      · rw [Buffer.perform, putNumber, put_of_writable hwritable]
        rfl

end Buffer

/-! ### Requests -/

namespace Pool

/-- A request of no bytes for a buffer that is made, and not for memory that is there already. -/
def Request.AsksNothing (request : Request) : Prop :=
  request.size = 0 ∧ request.handsOver = false

lemma serve_of_asksNothing {pool : Pool} {request : Request} (h : request.AsksNothing) :
    pool.serve request = pool.empty := by
  obtain ⟨hsize, hover⟩ := h
  have hin : request.exceeds = false := by
    cases request with
    | copyRange order source offset length =>
      obtain rfl : length = 0 := hsize
      rfl
    | _ => rfl
  rw [serve_eq_bind pool request hin hover, hsize, buffer_zero]
  cases request with
  | buffer | defaultBuffer => rfl
  | copyRange order source offset length =>
    obtain rfl : length = 0 := hsize
    rfl
  | copyBytes source =>
    obtain rfl := List.eq_nil_of_length_eq_zero hsize
    rfl
  | adoptRegion region | copyRegion region =>
    have hremaining : region.remaining = 0 := hsize
    simp [empty, Request.finish, Request.finishRegion, hremaining]

/-- A request of some bytes gets a new buffer with these bytes put into it. -/
lemma filled_of_serve {pool : Pool} {request : Request} {b : Buffer} (hpos : 0 < request.size)
    (hover : request.handsOver = false) (h : (pool.serve request).outcome = .ok b) :
    ∃ made : Buffer, made.isReadOnly = false ∧ made.origin ≠ .sharedEmpty ∧ made.writerIndex = 0 ∧
      b = made.append request.content := by
  by_cases hex : request.exceeds = true
  · obtain ⟨e, hserve⟩ := serve_of_exceeds pool request hex
    rw [hserve] at h
    cases h
  rw [serve_eq_bind pool request (by simpa using hex) hover] at h
  have hfilled {made : Buffer} (hwritable : made.isReadOnly = false)
      (hkeeps : made.append [] = made)
      (ho : (pool.buffer (request.order pool.defaultOrder) request.size).outcome = .ok made) :
      b = made.append request.content :=
    Except.ok.inj (h.symm.trans (Request.bind_finish hover ho hwritable hkeeps).1)
  obtain ⟨hzero, -⟩ | ⟨-, -, ho⟩ | ⟨-, -, s, ho, -⟩ | ho :=
    buffer_outcome pool (request.order pool.defaultOrder) request.size
  · exact absurd hzero hpos.ne'
  · have hmade := hfilled rfl (Buffer.append_nil_of_le rfl (Nat.zero_le _)) ho
    exact ⟨.dedicated _ _, rfl, nofun, rfl, hmade⟩
  · have hmade := hfilled rfl (Buffer.append_nil_of_le rfl (Nat.zero_le _)) ho
    exact ⟨(s.blank _).clear, rfl, nofun, rfl, hmade⟩
  · rw [Reply.bind_of_error ho] at h
    cases h

/-- A pool delivers the empty buffer to those who ask for nothing and to nobody else. -/
lemma cases_of_serve {pool : Pool} {request : Request} {b : Buffer}
    (h : (pool.serve request).outcome = .ok b) :
    request.AsksNothing ∧ b = .empty ∨
      ¬request.AsksNothing ∧ b.isReadOnly = false ∧ b.origin ≠ .sharedEmpty := by
  by_cases hover : request.handsOver = true
  · obtain ⟨region, spare, -, -, hserve⟩ := serve_of_handsOver pool request hover
    rw [hserve] at h
    obtain rfl := Except.ok.inj h
    exact .inr ⟨fun hnothing => absurd hover (by simp [hnothing.2]), rfl, nofun⟩
  obtain hsize | hpos := Nat.eq_zero_or_pos request.size
  · have hnothing : request.AsksNothing := ⟨hsize, by simpa using hover⟩
    rw [serve_of_asksNothing hnothing] at h
    exact .inl ⟨hnothing, (Except.ok.inj h).symm⟩
  obtain ⟨made, hwritable, horigin, -, rfl⟩ := filled_of_serve hpos (by simpa using hover) h
  exact .inr ⟨fun hnothing => hpos.ne' hnothing.1, hwritable, horigin⟩

lemma emptyOrWritable_of_serve {pool : Pool} {request : Request} {b : Buffer}
    (h : (pool.serve request).outcome = .ok b) : b.EmptyOrWritable :=
  (cases_of_serve h).imp And.right And.right

lemma isSharedEmpty_iff_of_serve {pool : Pool} {request : Request} {b : Buffer}
    (h : (pool.serve request).outcome = .ok b) :
    b.isSharedEmpty = true ↔ request.AsksNothing := by
  obtain ⟨hnothing, rfl⟩ | ⟨hsome, -, horigin⟩ := cases_of_serve h
  · exact iff_of_true rfl hnothing
  · exact iff_of_false (by simp [Buffer.isSharedEmpty, horigin]) hsome

end Pool

/-! ### Sessions -/

namespace Session

lemma emptyOrWritable_of_allocate {arena : Arena} {capacity : Nat} {b : Buffer}
    (h : (arena.allocate capacity).outcome = .ok b) : b.EmptyOrWritable := by
  obtain ⟨s, rfl, -, -⟩ := Arena.exists_of_allocate h
  exact .inr ⟨rfl, nofun⟩

/-- Only of the buffers is anything asked, and no request or operation is left out. -/
def emptyOrWritable : Invariant where
  buffer := Buffer.EmptyOrWritable
  region _ := True
  bytes _ := True
  arena _ := True
  slab _ := True
  request _ := True
  operation _ _ := True
  buffer_empty := .inl rfl
  buffer_wrap _ _ := .inr ⟨rfl, nofun⟩
  buffer_perform h _ := h.perform _
  buffer_serve _ _ h := Pool.emptyOrWritable_of_serve h
  buffer_allocate _ h := emptyOrWritable_of_allocate h
  request_region _ := ⟨trivial, trivial⟩
  region_new _ _ _ := trivial
  region_move _ _ := trivial
  region_copy _ _ := trivial
  bytes_freeze _ := trivial
  arena_new _ _ := trivial
  arena_allocate _ _ := trivial
  slab_allocate _ := trivial
  slab_carve _ _ := trivial
  bytes_carve _ _ := trivial

lemma admitsRun_emptyOrWritable (s : Session) (commands : List Command) :
    emptyOrWritable.AdmitsRun s commands := by
  have hadmits (s : Session) (command : Command) : emptyOrWritable.Admits s command := by
    unfold Invariant.Admits
    split
    · trivial
    case h_2 source _ | h_3 source _ => cases source <;> trivial
    · exact fun _ _ => trivial
    · trivial
  induction commands generalizing s with
  | nil => trivial
  | cons command commands ih => exact ⟨hadmits s command, ih _⟩

/-- All requests of no bytes get the one empty buffer, which no operations ever change: they write
nothing to it and read nothing from it. No other buffer of any session is read-only. -/
theorem empty_inert :
    (∀ (pool : Pool) (request : Pool.Request), request.AsksNothing →
      (pool.serve request).outcome = .ok .empty ∧ (pool.serve request).events = [] ∧
        pool.Recounted { pool.counters with emptyReturns := pool.counters.emptyReturns + 1 }
          (pool.serve request).state) ∧
    (∀ (pool : Pool) (request : Pool.Request) (b : Buffer), (pool.serve request).outcome = .ok b →
      (b.isSharedEmpty = true ↔ request.AsksNothing)) ∧
    (∀ (s : Session) (name : String),
      (s.step (.buffer (.empty name))).outcome = .ok (.buffer .empty)) ∧
    (∀ operations : List Buffer.Operation, (∀ op ∈ operations, op.InWord) →
      Buffer.empty.performAll operations =
        (operations.map Buffer.Operation.onEmpty, Buffer.empty)) ∧
    (Buffer.empty.readerIndex = 0 ∧ Buffer.empty.writerIndex = 0 ∧
      Buffer.empty.capacity = some 0 ∧ Buffer.empty.readable = [] ∧
      Buffer.empty.order = .big) ∧
    ∀ (commands : List Command), ∀ turn ∈ run {} commands,
      turn.session.buffers.All Buffer.SealedIffEmpty := by
  refine ⟨fun pool request h => Pool.serve_of_asksNothing h ▸ ⟨rfl, rfl, pool.recounted_empty⟩,
    fun pool request b h => Pool.isSharedEmpty_iff_of_serve h, fun s name => rfl,
    fun operations h => Buffer.performAll_empty h, by decide, fun commands turn hturn => ?_⟩
  have hholds := Invariant.holds_run emptyOrWritable.holds_empty
    (admitsRun_emptyOrWritable {} commands) turn hturn
  exact fun entry hentry => (hholds.buffers entry hentry).sealedIffEmpty

end Session
end BytePool
