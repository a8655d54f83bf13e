import BytePool.Buffer.Operation
import BytePool.Proofs.Buffer.Encoding
import BytePool.Proofs.Pool.Serve

/-!
# Behind a veil

A veil makes every byte of an object zero and leaves all else as it is. What comes of a request
behind the veil is what comes of it before, seen through the veil: no branch, no count and no index
depends on a byte.
-/
namespace BytePool

/-- As many bytes, all of them zero. -/
def veil (bytes : List UInt8) : List UInt8 := List.replicate bytes.length 0

section Bytes
variable (bytes later : List UInt8) (length : Nat)

@[simp] lemma length_veil : (veil bytes).length = bytes.length := List.length_replicate

@[simp] lemma isEmpty_veil : (veil bytes).isEmpty = bytes.isEmpty := by
  cases bytes <;> rfl

lemma veil_append : veil (bytes ++ later) = veil bytes ++ veil later := by
  simp [veil]

lemma veil_take : veil (bytes.take length) = (veil bytes).take length := by
  simp [veil, List.take_replicate]

lemma veil_drop : veil (bytes.drop length) = (veil bytes).drop length := by
  simp [veil, List.drop_replicate]

@[simp] lemma veil_replicate : veil (List.replicate length 0) = List.replicate length 0 := by
  simp [veil]

lemma length_eq_of_veil_eq {bytes later : List UInt8} (h : veil bytes = veil later) :
    bytes.length = later.length := by
  simpa using congrArg List.length h

end Bytes

/-! ### Numbers -/

namespace Number
variable (order : ByteOrder) (t : NumberType)

lemma lowFirst_zero (width : Nat) : lowFirst width 0 = List.replicate width 0 := by
  induction width with
  | zero => rfl
  | succ width ih => rw [lowFirst, Nat.zero_div, ih]; rfl

lemma arrange_veil (bytes : List UInt8) : arrange order (veil bytes) = veil bytes := by
  cases order <;> simp [arrange, veil]

/-- Zero stands behind the veil of every number. -/
lemma veil_encode (value : Int) : veil (encode order t value) = encode order t 0 := by
  have hzero : encode order t 0 = arrange order (veil (encode order t value)) := by
    rw [encode, veil, length_encode, Int.zero_emod, Int.toNat_zero, lowFirst_zero]
  rw [hzero, arrange_veil]

lemma decode_veil (bytes : List UInt8) : decode order t (veil bytes) = 0 := by
  have hzero : ofLowFirst (veil bytes) = 0 := by
    induction bytes with
    | nil => rfl
    | cons byte bytes ih =>
      rw [show veil (byte :: bytes) = 0 :: veil bytes from rfl, ofLowFirst, ih]
      rfl
  have hpos := t.modulus_pos
  rw [decode, arrange_veil, hzero, if_neg (by omega)]
  rfl

end Number

/-! ### Replies -/

namespace Reply
variable {σ τ α α' β β' : Type} {f : σ → τ}

/-- Makes something of the state and something of the value. -/
def image (f : σ → τ) (g : α → β) (reply : Reply σ α) : Reply τ β := (reply.map g).within f

lemma image_map {g : β → β'} {g' : α → α'} {h : α → β} {h' : α' → β'} {reply : Reply σ α}
    {reply' : Reply τ α'} (hreply : reply.image f g' = reply')
    (hvalue : ∀ value, g (h value) = h' (g' value)) :
    (reply.map h).image f g = reply'.map h' := by
  subst hreply
  obtain ⟨_ | _, _, _⟩ := reply <;> simp [image, map, within, Except.map, hvalue]

lemma image_bind {g : α → α'} {g' : β → β'} {next : σ → α → Reply σ β}
    {next' : τ → α' → Reply τ β'} {reply : Reply σ α} {reply' : Reply τ α'}
    (hreply : reply.image f g = reply')
    (hnext : ∀ state value, (next state value).image f g' = next' (f state) (g value)) :
    (reply.bind next).image f g' = reply'.bind next' := by
  subst hreply
  obtain ⟨_ | value, state, events⟩ := reply
  · rfl
  · have hlater := hnext state value
    simp only [image, map, within, bind, Except.map, mk.injEq] at hlater ⊢
    simp [← hlater]

/-- The image of a reply of which the value is its own image. -/
lemma image_of_fixed {g : α → α} {reply : Reply σ α}
    (h : ∀ value, reply.outcome = .ok value → g value = value) : reply.image id g = reply := by
  obtain ⟨_ | value, state, events⟩ := reply
  · rfl
  · simp [image, map, within, Except.map, h value rfl]

end Reply

/-! ### Buffers -/

namespace Buffer

def veil (b : Buffer) : Buffer := { b with readable := BytePool.veil b.readable }

def Operation.veil : Operation → Operation
  | .putSlice bytes => .putSlice (BytePool.veil bytes)
  | .putNumber type _ => .putNumber type 0
  | operation => operation

def Result.veil : Result → Result
  | .nothing => .nothing
  | .number _ => .number 0
  | .bytes content => .bytes (BytePool.veil content)

variable (b : Buffer)

@[simp] lemma writerIndex_veil : b.veil.writerIndex = b.writerIndex := by
  simp [veil, writerIndex]

lemma text?_veil : b.veil.text? = b.text? := by
  simp [text?, veil, writerIndex]

lemma veil_wrapFrom (order : ByteOrder) (bytes : List UInt8) (spare readerIndex : Nat) :
    (wrapFrom order bytes spare readerIndex).veil =
      wrapFrom order (BytePool.veil bytes) spare readerIndex := by
  simp [veil, wrapFrom, veil_drop]

lemma veil_append (bytes : List UInt8) :
    (b.append bytes).veil = b.veil.append (BytePool.veil bytes) := by
  have hw : b.veil.writerIndex + (BytePool.veil bytes).length = b.writerIndex + bytes.length := by
    simp
  rw [append, append, hw, veil, BytePool.veil_append]
  rfl

lemma put_veil (operation : String) (bytes : List UInt8) :
    (b.put operation bytes).image veil id = b.veil.put operation (BytePool.veil bytes) := by
  unfold put
  by_cases h : b.isReadOnly = true
  · rw [if_pos h, if_pos (show b.veil.isReadOnly = true from h)]
    rfl
  · rw [if_neg h, if_neg (show ¬b.veil.isReadOnly = true from h), ← veil_append]
    rfl

lemma putSlice_veil (bytes : List UInt8) :
    (b.putSlice bytes).image veil id = b.veil.putSlice (BytePool.veil bytes) := by
  unfold putSlice
  rw [isEmpty_veil]
  split
  · rfl
  · exact b.put_veil _ bytes

lemma putNumber_veil (t : NumberType) (value : Int) :
    (b.putNumber t value).image veil id = b.veil.putNumber t 0 := by
  rw [putNumber, put_veil, Number.veil_encode]
  rfl

lemma take_veil (length : Nat) :
    (b.take length).image veil BytePool.veil = b.veil.take length := by
  have hlength : b.veil.readable.length = b.readable.length := length_veil b.readable
  unfold take
  rw [hlength, writerIndex_veil]
  split
  · rfl
  · simp [Reply.image, Reply.done, Reply.map, Reply.within, Except.map, veil, veil_take, veil_drop]

lemma getNumber_veil (t : NumberType) :
    (b.getNumber t).image veil (fun _ => 0) = b.veil.getNumber t := by
  apply Reply.image_map (b.take_veil t.width)
  intro bytes
  exact (Number.decode_veil b.order t bytes).symm

/-- What an operation does is the same whatever the bytes are. -/
theorem perform_veil (operation : Operation) :
    (b.perform operation).image veil Result.veil = b.veil.perform operation.veil := by
  have hskip (length : Nat) : (b.skip length).image veil id = b.veil.skip length := by
    apply Reply.image_map (b.take_veil length)
    exact fun _ => rfl
  cases operation with
  | clear => rfl
  | putSlice bytes => apply Reply.image_map (b.putSlice_veil bytes); exact fun _ => rfl
  | putNumber type value => apply Reply.image_map (b.putNumber_veil type value); exact fun _ => rfl
  | getNumber type => apply Reply.image_map (b.getNumber_veil type); exact fun _ => rfl
  | readInto length => apply Reply.image_map (b.take_veil length); exact fun _ => rfl
  | skip length => apply Reply.image_map (hskip length); exact fun _ => rfl

end Buffer

/-! ### Regions -/

namespace Region

def veil (region : Region) : Region := { region with bytes := BytePool.veil region.bytes }

variable (region : Region)

@[simp] lemma order_veil : region.veil.order = region.order := rfl

@[simp] lemma position_veil : region.veil.position = region.position := rfl

@[simp] lemma length_veil : region.veil.length = region.length := by simp [veil, length]

@[simp] lemma remaining_veil : region.veil.remaining = region.remaining := by
  rw [remaining, length_veil]
  rfl

lemma readable_veil : region.veil.readable = BytePool.veil region.readable :=
  (BytePool.veil_drop _ _).symm

lemma setPosition_veil (position : Nat) :
    (region.setPosition position).image veil id = region.veil.setPosition position := by
  unfold setPosition
  rw [length_veil]
  split <;> rfl

lemma reset_veil : region.reset.image veil id = region.veil.reset := by
  unfold reset
  rw [show region.veil.mark = region.mark from rfl]
  split <;> rfl

lemma advance_veil (length : Nat) :
    (region.advance length).image veil id = region.veil.advance length := by
  unfold advance
  rw [remaining_veil, length_veil]
  split <;> rfl

lemma veil_restore (position : Nat) :
    (region.restore position).veil = region.veil.restore position := by
  simp [restore, veil, length]

lemma drainInto_veil (b : Buffer) :
    (region.drainInto b).image (Prod.map Buffer.veil veil) id = region.veil.drainInto b.veil := by
  have hput := b.putSlice_veil region.readable
  rw [drainInto, drainInto, readable_veil, remaining_veil, ← hput]
  refine Reply.image_bind (g := id) rfl fun state _ => ?_
  rw [show (Prod.map Buffer.veil veil state).2 = state.2.veil from rfl, ← advance_veil]
  rfl

end Region

/-! ### Slabs and arenas

What is carved was never written, so there is nothing to veil. -/

def Chunk.veil (chunk : Chunk) : Chunk := { chunk with bytes := BytePool.veil chunk.bytes }

lemma Chunk.veil_of_zero {chunk : Chunk} (h : ∀ byte ∈ chunk.bytes, byte = 0) :
    chunk.veil = chunk := by
  have hveil : BytePool.veil chunk.bytes = chunk.bytes :=
    (List.eq_replicate_iff.mpr ⟨rfl, h⟩).symm
  rw [veil, hveil]

lemma Slab.carve?_veil (slab : Slab) (length : Nat) :
    (slab.carve? length).image (fun slab => slab) (Option.map Chunk.veil) = slab.carve? length := by
  apply Reply.image_of_fixed
  intro value h
  unfold Slab.carve? at h
  split at h <;> cases h
  case isTrue => exact congrArg some (Chunk.veil_of_zero (slab.zero_carve length))
  case isFalse => rfl

lemma Slice.veil_blank (order : ByteOrder) (s : Slice) : (s.blank order).veil = s.blank order := by
  rw [Buffer.veil, readable_blank, veil_replicate]
  rfl

lemma Arena.allocate_veil (arena : Arena) (capacity : Nat) :
    (arena.allocate capacity).image id Buffer.veil = arena.allocate capacity := by
  apply Reply.image_of_fixed
  intro b h
  obtain ⟨s, rfl, -, -⟩ := Arena.exists_of_allocate h
  exact s.veil_blank arena.order

/-! ### Pools -/

namespace Pool

def Request.veil : Request → Request
  | .copyRange order source offset length => .copyRange order (BytePool.veil source) offset length
  | .copyBytes source => .copyBytes (BytePool.veil source)
  | .adoptRegion region => .adoptRegion region.veil
  | .copyRegion region => .copyRegion region.veil
  | request => request

variable (pool : Pool)

/-- A buffer on request has nothing in it yet. -/
lemma buffer_veil (order : ByteOrder) (capacity : Nat) :
    (pool.buffer order capacity).image id Buffer.veil = pool.buffer order capacity := by
  apply Reply.image_of_fixed
  intro b h
  obtain ⟨-, ho⟩ | ⟨-, -, ho⟩ | ⟨-, -, s, ho, -⟩ | ho := pool.buffer_outcome order capacity <;>
    rw [ho] at h <;> cases h <;> rfl

lemma copyRange_veil (order : ByteOrder) (source : List UInt8) (offset length : Nat) :
    (pool.copyRange order source offset length).image id Buffer.veil =
      pool.copyRange order (BytePool.veil source) offset length := by
  unfold copyRange
  rw [length_veil]
  split
  · rfl
  split
  · rfl
  apply Reply.image_bind (pool.buffer_veil order length)
  intro pool b
  rw [← BytePool.veil_drop, ← BytePool.veil_take, ← b.putSlice_veil]
  cases ho : (b.putSlice ((source.drop offset).take length)).outcome <;>
    simp [Reply.image, Reply.map, Reply.within, Except.map, ho]

lemma copyBytes_veil (source : List UInt8) :
    (pool.copyBytes source).image id Buffer.veil = pool.copyBytes (BytePool.veil source) := by
  rw [copyBytes, copyBytes, copyRange_veil, length_veil]

lemma copyRegion_veil (region : Region) :
    (pool.copyRegion region).image (Prod.map id Region.veil) Buffer.veil =
      pool.copyRegion region.veil := by
  have hbuffer : ((pool.buffer region.order region.remaining).within (·, region)).image
      (Prod.map id Region.veil) Buffer.veil =
        (pool.buffer region.order region.remaining).within (·, region.veil) :=
    congrArg (Reply.within (·, region.veil)) (pool.buffer_veil region.order region.remaining)
  rw [copyRegion, copyRegion, region.remaining_veil]
  apply Reply.image_bind hbuffer
  rintro ⟨pool, region⟩ b
  have hdrain := region.drainInto_veil b
  simp only [Prod.map, id_eq, region.remaining_veil, ← hdrain]
  split
  · rfl
  · cases ho : (region.drainInto b).outcome <;>
      simp [Reply.image, Reply.map, Reply.within, Reply.emit, Reply.done, Except.map, ho,
        Region.veil_restore]

lemma adoptRegion_veil (region : Region) :
    (pool.adoptRegion region).image id Buffer.veil = pool.adoptRegion region.veil := by
  have hstorage : region.veil.storage = region.storage := rfl
  have hcopy := congrArg (Reply.within Prod.fst) (pool.copyRegion_veil region)
  unfold adoptRegion
  rw [hstorage]
  cases region.storage with
  | direct spare =>
    simp only [Reply.image, Reply.map, Reply.within, Reply.emit, Reply.done, Except.map,
      Buffer.veil_wrapFrom, Region.length_veil]
    rfl
  | readOnly | heap => exact hcopy

/-- A pool delivers the same buffer but for its bytes. -/
theorem serve_veil (request : Request) :
    (pool.serve request).image id Buffer.veil = pool.serve request.veil := by
  cases request with
  | buffer order capacity => exact pool.buffer_veil order capacity
  | defaultBuffer capacity => exact pool.buffer_veil pool.defaultOrder capacity
  | copyRange order source offset length => exact pool.copyRange_veil order source offset length
  | copyBytes source => exact pool.copyBytes_veil source
  | adoptRegion region => exact pool.adoptRegion_veil region
  | copyRegion region => exact congrArg (Reply.within Prod.fst) (pool.copyRegion_veil region)

end Pool
end BytePool
