import BytePool.Buffer.Operation
import BytePool.Proofs.Carving.Step

/-!
# Windows on slabs

How the bytes of a buffer are kept where slabs are shared arrays: a slice is no more than a window
on the array of its slab. Bytes that fit into the window are stored in the array, and a buffer that
outgrows its window takes its bytes to memory of its own.
-/
namespace BytePool

/-- Whose slabs they are: those of an arena on its own, or those of an order in a pool. -/
inductive Owner where
  | arena (i : Nat)
  | pool (i : Nat) (order : ByteOrder)
  deriving DecidableEq, Repr

/-- The arrays of all slabs. -/
abbrev Memory := Owner → Nat → List UInt8

/-- Puts bytes in the place of those that are there. -/
def overwrite (array : List UInt8) (start : Nat) (bytes : List UInt8) : List UInt8 :=
  array.take start ++ bytes ++ array.drop (start + bytes.length)

section Overwrite
variable {array bytes : List UInt8} {start : Nat} (h : start + bytes.length ≤ array.length)
include h

lemma length_overwrite : (overwrite array start bytes).length = array.length := by
  simp only [overwrite, List.length_append, List.length_take, List.length_drop]
  omega

lemma getElem?_overwrite (i : Nat) :
    (overwrite array start bytes)[i]? =
      if start ≤ i ∧ i < start + bytes.length then bytes[i - start]? else array[i]? := by
  have hstart : (array.take start).length = start := by
    rw [List.length_take]
    omega
  unfold overwrite
  rw [List.append_assoc, List.getElem?_append, hstart]
  by_cases hlow : i < start
  · rw [if_pos hlow, if_neg (by omega), List.getElem?_take, if_pos hlow]
  rw [if_neg hlow, List.getElem?_append]
  by_cases hin : i - start < bytes.length
  · rw [if_pos hin, if_pos (by omega)]
  · rw [if_neg hin, if_neg (by omega), List.getElem?_drop]
    congr 1
    omega

/-- What was there before the bytes and the bytes themselves. -/
lemma take_drop_overwrite {low count : Nat} (hlow : start = low + count) :
    ((overwrite array start bytes).drop low).take (count + bytes.length) =
      (array.drop low).take count ++ bytes := by
  have hcount : ((array.drop low).take count).length = count := by
    rw [List.length_take, List.length_drop]
    omega
  ext1 i
  rw [List.getElem?_append, hcount, List.getElem?_take, List.getElem?_take, List.getElem?_drop,
    List.getElem?_drop, getElem?_overwrite h]
  by_cases hi : i < count
  · rw [if_pos (by omega), if_neg (by omega), if_pos hi, if_pos hi]
  · rw [if_neg hi]
    by_cases hin : i < count + bytes.length
    · rw [if_pos hin, if_pos (by omega)]
      congr 1
      omega
    · rw [if_neg hin, List.getElem?_eq_none (by omega)]

end Overwrite

namespace Memory

def bytesAt (m : Memory) (owner : Owner) (s : Slice) : List UInt8 :=
  ((m owner s.slab).drop s.offset).take s.length

/-- Stores bytes in the array of a slab. -/
def store (m : Memory) (owner : Owner) (slab start : Nat) (bytes : List UInt8) : Memory :=
  Function.update m owner
    (Function.update (m owner) slab (overwrite (m owner slab) start bytes))

variable (m : Memory) (owner : Owner) (slab start : Nat) (bytes : List UInt8)

lemma store_same : m.store owner slab start bytes owner slab =
    overwrite (m owner slab) start bytes := by
  simp [store]

lemma store_of_ne {owner' : Owner} {slab' : Nat} (h : owner' = owner → slab' ≠ slab) :
    m.store owner slab start bytes owner' slab' = m owner' slab' := by
  by_cases ho : owner' = owner
  · subst ho
    simp [store, h rfl]
  · simp [store, ho]

variable {m owner slab start bytes}

lemma length_store (h : start + bytes.length ≤ (m owner slab).length) (owner' : Owner)
    (slab' : Nat) :
    (m.store owner slab start bytes owner' slab').length = (m owner' slab').length := by
  by_cases he : owner' = owner ∧ slab' = slab
  · obtain ⟨rfl, rfl⟩ := he
    rw [store_same, length_overwrite h]
  · rw [store_of_ne]
    exact fun ho hs => he ⟨ho, hs⟩

/-- Bytes that are stored inside a slice are not seen in slices apart from it. -/
lemma bytesAt_store {owner' : Owner} {s t : Slice} (hlow : s.offset ≤ start)
    (hhigh : start + bytes.length ≤ s.stop) (hstop : s.stop ≤ (m owner s.slab).length)
    (hapart : owner' = owner → s.Apart t) :
    (m.store owner s.slab start bytes).bytesAt owner' t = m.bytesAt owner' t := by
  unfold bytesAt
  by_cases he : owner' = owner ∧ t.slab = s.slab
  · obtain ⟨rfl, hslab⟩ := he
    have happ := hapart rfl hslab.symm
    simp only [Slice.stop] at happ hhigh
    rw [hslab, store_same]
    ext1 i
    rw [List.getElem?_take, List.getElem?_take, List.getElem?_drop, List.getElem?_drop]
    by_cases hi : i < t.length
    · rw [if_pos hi, if_pos hi, getElem?_overwrite (by simp only [Slice.stop] at hstop; omega),
        if_neg (by omega)]
    · rw [if_neg hi, if_neg hi]
  · rw [store_of_ne]
    exact fun ho hs => he ⟨ho, hs⟩

end Memory

/-! ### Holdings -/

/-- Where the bytes of a buffer are, up to its writer index. -/
inductive Place where
  | window (owner : Owner) (slice : Slice) (writerIndex : Nat)
  /-- Memory of its own, and how many bytes it holds before it must grow. -/
  | own (bytes : List UInt8) (capacity : Option Nat)
  deriving DecidableEq, Repr

/-- A buffer without the bytes that lie in slabs. -/
structure Holding where
  order : ByteOrder
  origin : Origin
  isReadOnly : Bool
  readerIndex : Nat
  place : Place
  deriving DecidableEq, Repr

namespace Holding

def window? (h : Holding) : Option (Owner × Slice) :=
  match h.place with
  | .window owner s _ => some (owner, s)
  | .own _ _ => none

/-- The bytes before the writer index. -/
def written (h : Holding) (m : Memory) : List UInt8 :=
  match h.place with
  | .window owner s writerIndex => m.bytesAt owner { s with length := writerIndex }
  | .own bytes _ => bytes

def capacity (h : Holding) : Option Nat :=
  match h.place with
  | .window _ s _ => some s.length
  | .own _ capacity => capacity

/-- The buffer as its holder sees it. -/
def view (h : Holding) (m : Memory) : Buffer where
  order := h.order
  origin := h.origin
  isReadOnly := h.isReadOnly
  readerIndex := h.readerIndex
  readable := (h.written m).drop h.readerIndex
  capacity := h.capacity

/-- What is kept of a buffer that was just delivered: of a slice its place, of all others the
bytes. -/
def hold (owner : Owner) (b : Buffer) : Holding where
  order := b.order
  origin := b.origin
  isReadOnly := b.isReadOnly
  readerIndex := b.readerIndex
  place :=
    match b.origin.slice? with
    | some s => .window owner s b.writerIndex
    | none => .own b.readable b.capacity

lemma hold_blank (owner : Owner) (order : ByteOrder) (s : Slice) :
    hold owner (s.blank order) =
      { order
        origin := .slab s.slab s.offset s.length
        isReadOnly := false
        readerIndex := 0
        place := .window owner s s.length } := by
  rw [hold, Slice.slice?_origin_blank, Slice.writerIndex_blank]
  rfl

lemma hold_clear_blank (owner : Owner) (order : ByteOrder) (s : Slice) :
    hold owner (s.blank order).clear =
      { order
        origin := .slab s.slab s.offset s.length
        isReadOnly := false
        readerIndex := 0
        place := .window owner s 0 } :=
  rfl

lemma hold_of_none (owner : Owner) {b : Buffer} (h : b.origin.slice? = none) :
    hold owner b =
      { order := b.order
        origin := b.origin
        isReadOnly := b.isReadOnly
        readerIndex := b.readerIndex
        place := .own b.readable b.capacity } := by
  simp only [hold, h]

/-! ### Operations -/

/-- Puts bytes at the writer index. -/
def append (h : Holding) (m : Memory) (bytes : List UInt8) : Memory × Holding :=
  match h.place with
  | .window owner s writerIndex =>
    if writerIndex + bytes.length ≤ s.length then
      (m.store owner s.slab (s.offset + writerIndex) bytes,
        { h with place := .window owner s (writerIndex + bytes.length) })
    else (m, { h with place := .own (h.written m ++ bytes) none })
  | .own held capacity =>
    (m, { h with
      place := .own (held ++ bytes) (capacity.filter (held.length + bytes.length ≤ ·)) })

def put (h : Holding) (m : Memory) (operation : String) (bytes : List UInt8) :
    Reply (Memory × Holding) Unit :=
  if h.isReadOnly then .refuse (.readOnly operation) (m, h) else .done () (h.append m bytes)

def putSlice (h : Holding) (m : Memory) (bytes : List UInt8) : Reply (Memory × Holding) Unit :=
  if bytes.isEmpty then .done () (m, h) else h.put m "put_slice" bytes

def take (h : Holding) (m : Memory) (length : Nat) : Reply (Memory × Holding) (List UInt8) :=
  let readable := (h.written m).drop h.readerIndex
  if readable.length < length then
    .refuse (.indexOutOfRange "reader_index" (min maxWord (h.readerIndex + length))
      (h.written m).length) (m, h)
  else .done (readable.take length) (m, { h with readerIndex := h.readerIndex + length })

def clear (h : Holding) : Holding :=
  { h with
    readerIndex := 0
    place :=
      match h.place with
      | .window owner s _ => .window owner s 0
      | .own _ capacity => .own [] capacity }

def perform (h : Holding) (m : Memory) : Buffer.Operation → Reply (Memory × Holding) Buffer.Result
  | .clear => .done .nothing (m, h.clear)
  | .putSlice bytes => (h.putSlice m bytes).map fun _ => .nothing
  | .putNumber type value =>
    (h.put m ("put_" ++ type.name) (Number.encode h.order type value)).map fun _ => .nothing
  | .getNumber type =>
    (h.take m type.width).map fun bytes => .number (Number.decode h.order type bytes)
  | .readInto length => (h.take m length).map .bytes
  | .skip length => (h.take m length).map fun _ => .nothing

/-! ### Both indices stay inside -/

/-- The reader index is not beyond the writer index, the writer index not beyond the window, and the
window not beyond the array. -/
def Fits (h : Holding) (m : Memory) : Prop :=
  match h.place with
  | .window owner s writerIndex =>
    h.readerIndex ≤ writerIndex ∧ writerIndex ≤ s.length ∧ s.stop ≤ (m owner s.slab).length
  | .own bytes _ => h.readerIndex ≤ bytes.length

/-- What an operation may do to memory: it may write inside the window of its holding. -/
structure Local (h : Holding) (m : Memory) (after : Memory × Holding) : Prop where
  fits : after.2.Fits after.1
  window : ∀ w, after.2.window? = some w → h.window? = some w
  length_eq : ∀ owner slab, (after.1 owner slab).length = (m owner slab).length
  frame : ∀ owner t, (∀ s, h.window? = some (owner, s) → s.Apart t) →
    after.1.bytesAt owner t = m.bytesAt owner t

section Operations
variable {h : Holding} {m : Memory} (hf : h.Fits m)
include hf

lemma length_written {owner : Owner} {s : Slice} {writerIndex : Nat}
    (hw : h.place = .window owner s writerIndex) : (h.written m).length = writerIndex := by
  simp only [Fits, hw, Slice.stop] at hf
  simp only [written, hw, Memory.bytesAt, List.length_take, List.length_drop]
  omega

lemma readerIndex_le : h.readerIndex ≤ (h.written m).length := by
  cases hp : h.place with
  | window owner s writerIndex =>
    rw [length_written hf hp]
    simp only [Fits, hp] at hf
    exact hf.1
  | own bytes capacity =>
    simp only [Fits, hp] at hf
    simpa only [written, hp] using hf

lemma writerIndex_view : (h.view m).writerIndex = (h.written m).length := by
  have hr := readerIndex_le hf
  simp only [Buffer.writerIndex, view, List.length_drop]
  omega

lemma local_self {r : Nat} (hr : r ≤ (h.written m).length) :
    h.Local m (m, { h with readerIndex := r }) where
  fits := by
    cases hp : h.place with
    | window owner s writerIndex =>
      rw [length_written hf hp] at hr
      simp only [Fits, hp] at hf ⊢
      exact ⟨hr, hf.2⟩
    | own bytes capacity =>
      simp only [written, hp] at hr
      simpa only [Fits, hp] using hr
  window _ hw := hw
  length_eq _ _ := rfl
  frame _ _ _ := rfl

/-! Putting -/

lemma written_append (bytes : List UInt8) :
    (h.append m bytes).2.written (h.append m bytes).1 = h.written m ++ bytes := by
  cases hp : h.place with
  | window owner s writerIndex =>
    by_cases hroom : writerIndex + bytes.length ≤ s.length
    · have hstore : s.offset + writerIndex + bytes.length ≤ (m owner s.slab).length := by
        simp only [Fits, hp, Slice.stop] at hf
        omega
      simp only [append, hp, if_pos hroom, written, Memory.bytesAt, Memory.store_same]
      exact take_drop_overwrite hstore rfl
    · simp only [append, hp, if_neg hroom, written]
  | own held capacity => simp only [append, hp, written]

lemma capacity_append (bytes : List UInt8) :
    (h.append m bytes).2.capacity =
      h.capacity.filter ((h.written m).length + bytes.length ≤ ·) := by
  cases hp : h.place with
  | window owner s writerIndex =>
    rw [length_written hf hp]
    by_cases hroom : writerIndex + bytes.length ≤ s.length
    · simp [append, hp, hroom, capacity, Option.filter_some]
    · simp [append, hp, hroom, capacity, Option.filter_some]
  | own held capacity => simp only [append, hp, Holding.capacity, written]

lemma view_append (bytes : List UInt8) :
    (h.append m bytes).2.view (h.append m bytes).1 = (h.view m).append bytes := by
  have hsame : (h.append m bytes).2.order = h.order ∧ (h.append m bytes).2.origin = h.origin ∧
      (h.append m bytes).2.isReadOnly = h.isReadOnly ∧
      (h.append m bytes).2.readerIndex = h.readerIndex := by
    unfold append
    split
    · split <;> exact ⟨rfl, rfl, rfl, rfl⟩
    · exact ⟨rfl, rfl, rfl, rfl⟩
  obtain ⟨horder, horigin, hreadOnly, hreader⟩ := hsame
  rw [Buffer.append, writerIndex_view hf]
  simp only [view, horder, horigin, hreadOnly, hreader, written_append hf, capacity_append hf,
    List.drop_append_of_le_length (readerIndex_le hf)]

lemma local_append (bytes : List UInt8) : h.Local m (h.append m bytes) := by
  have hreader := readerIndex_le hf
  cases hp : h.place with
  | window owner s writerIndex =>
    have hlength := length_written hf hp
    simp only [Fits, hp] at hf
    obtain ⟨hr, hw, hstop⟩ := hf
    by_cases hroom : writerIndex + bytes.length ≤ s.length
    · have hin : s.offset + writerIndex + bytes.length ≤ s.stop := by
        simp only [Slice.stop]
        omega
      simp only [append, hp, if_pos hroom]
      constructor
      case fits =>
        simp only [Fits]
        rw [Memory.length_store (hin.trans hstop)]
        exact ⟨by omega, hroom, hstop⟩
      case window =>
        intro w hw'
        simpa only [window?, hp] using hw'
      case length_eq => exact Memory.length_store (hin.trans hstop)
      case frame =>
        intro owner' t happ
        refine Memory.bytesAt_store (Nat.le_add_right _ _) hin hstop fun ho => ?_
        exact happ s (by rw [ho]; simp only [window?, hp])
    · simp only [append, hp, if_neg hroom]
      constructor
      case fits =>
        simp only [Fits, List.length_append]
        omega
      case window => intro w hw'; cases hw'
      case length_eq => exact fun _ _ => rfl
      case frame => exact fun _ _ _ => rfl
  | own held capacity =>
    simp only [written, hp] at hreader
    simp only [append, hp]
    constructor
    case fits =>
      simp only [Fits, List.length_append]
      omega
    case window => intro w hw'; cases hw'
    case length_eq => exact fun _ _ => rfl
    case frame => exact fun _ _ _ => rfl

lemma view_put (operation : String) (bytes : List UInt8) :
    (h.put m operation bytes).within (fun s => s.2.view s.1) = (h.view m).put operation bytes := by
  unfold put Buffer.put
  by_cases hread : h.isReadOnly
  · rw [if_pos hread, if_pos (show (h.view m).isReadOnly from hread)]
    rfl
  · rw [if_neg hread, if_neg (show ¬(h.view m).isReadOnly from hread), ← view_append hf]
    rfl

lemma local_put (operation : String) (bytes : List UInt8) :
    h.Local m (h.put m operation bytes).state := by
  unfold put
  split
  · exact local_self hf (readerIndex_le hf)
  · exact local_append hf bytes

/-! Taking and clearing -/

lemma view_take (length : Nat) :
    (h.take m length).within (fun s => s.2.view s.1) = (h.view m).take length := by
  have hwriter := writerIndex_view hf
  unfold take Buffer.take
  rw [hwriter]
  by_cases hlt : ((h.written m).drop h.readerIndex).length < length
  · rw [if_pos (show (h.view m).readable.length < length from hlt)]
    simp only [if_pos hlt]
    rfl
  · rw [if_neg (show ¬(h.view m).readable.length < length from hlt)]
    simp only [if_neg hlt]
    simp [Reply.within, Reply.done, view, List.drop_drop, written, capacity]

lemma local_take (length : Nat) : h.Local m (h.take m length).state := by
  have hr := readerIndex_le hf
  simp only [take]
  split
  · exact local_self hf hr
  · refine local_self hf ?_
    simp only [List.length_drop] at *
    omega

omit hf in
lemma view_clear : (h.clear).view m = (h.view m).clear := by
  cases hp : h.place with
  | window owner s writerIndex =>
    simp [clear, view, Buffer.clear, written, capacity, hp, Memory.bytesAt]
  | own bytes capacity => simp [clear, view, Buffer.clear, written, Holding.capacity, hp]

lemma local_clear : h.Local m (m, h.clear) := by
  constructor
  case fits =>
    cases hp : h.place with
    | window owner s writerIndex =>
      simp only [Fits, hp] at hf
      simpa [Fits, clear, hp] using hf.2.2
    | own bytes capacity => simp [Fits, clear, hp]
  case window =>
    intro w hw
    cases hp : h.place <;> simp_all [window?, clear]
  case length_eq => exact fun _ _ => rfl
  case frame => exact fun _ _ _ => rfl

/-! Any operation -/

/-- An operation on a holding is the operation on the buffer that its holder sees. -/
theorem view_perform (op : Buffer.Operation) :
    (h.perform m op).within (fun s => s.2.view s.1) = (h.view m).perform op := by
  cases op with
  | clear => simp only [perform, Buffer.perform, ← view_clear]; rfl
  | putSlice bytes =>
    have hslice : (h.putSlice m bytes).within (fun s => s.2.view s.1) =
        (h.view m).putSlice bytes := by
      unfold putSlice Buffer.putSlice
      split
      · rfl
      · exact view_put hf "put_slice" bytes
    exact congrArg (Reply.map _) hslice
  | putNumber type value => exact congrArg (Reply.map _) (view_put hf _ _)
  | getNumber type =>
    have htake := view_take hf type.width
    simp only [perform, Buffer.perform, Buffer.getNumber, ← htake]
    cases ho : (h.take m type.width).outcome <;>
      simp [Reply.map, Reply.within, ho, Except.map, view]
  | readInto length => exact congrArg (Reply.map _) (view_take hf length)
  | skip length =>
    have htake := view_take hf length
    simp only [perform, Buffer.perform, Buffer.skip, ← htake]
    cases ho : (h.take m length).outcome <;> simp [Reply.map, Reply.within, ho, Except.map]

/-- An operation on a holding writes nowhere but in its window. -/
theorem local_perform (op : Buffer.Operation) : h.Local m (h.perform m op).state := by
  cases op with
  | clear => exact local_clear hf
  | putSlice bytes =>
    simp only [perform, putSlice, Reply.state_map]
    split
    · exact local_self hf (readerIndex_le hf)
    · exact local_put hf _ bytes
  | putNumber type value => exact local_put hf _ _
  | getNumber type => exact local_take hf _
  | readInto length => exact local_take hf length
  | skip length => exact local_take hf length

end Operations

/-- What a holder sees depends on no bytes outside the window. -/
lemma view_congr {h : Holding} {m m' : Memory} (hf : h.Fits m)
    (hsame : ∀ owner s, h.window? = some (owner, s) → m'.bytesAt owner s = m.bytesAt owner s) :
    h.view m' = h.view m := by
  have hwritten : h.written m' = h.written m := by
    cases hp : h.place with
    | window owner s writerIndex =>
      have hs := hsame owner s (by simp only [window?, hp])
      simp only [Fits, hp] at hf
      have htake (m : Memory) : m.bytesAt owner { s with length := writerIndex } =
          (m.bytesAt owner s).take writerIndex := by
        simp only [Memory.bytesAt, List.take_take, Nat.min_eq_left hf.2.1]
      simp only [written, hp, htake, hs]
    | own bytes capacity => simp only [written, hp]
  simp only [view, hwritten]

end Holding
end BytePool
