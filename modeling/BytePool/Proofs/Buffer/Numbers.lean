import BytePool.Buffer.Operation
import BytePool.Proofs.Buffer.Encoding

/-!
# Numbers put and got

Numbers of any types that are put one after the other lie in the buffer as their encodings, end to
end. Getting undoes putting, and putting undoes getting.
-/
namespace BytePool.Buffer
open Number (Typed)

def puts (values : List Typed) : List Operation := values.map fun v => .putNumber v.type v.value

def gets (types : List NumberType) : List Operation := types.map .getNumber

/-- Every number got back as one of a type. -/
def got (values : List Typed) (types : List NumberType) : List (Except Failure Result) :=
  values.zipWith (fun v t => .ok (.number (v.as t).value)) types

lemma got_type (values : List Typed) :
    got values (values.map Typed.type) = values.map fun v => .ok (.number v.value) := by
  simp [got, List.zipWith_map_right, List.zipWith_self]

/-- A run goes on after an operation that succeeds. -/
lemma performAll_cons {b next last : Buffer} {operation : Operation} {result : Result}
    {operations : List Operation} {outcomes : List (Except Failure Result)}
    (h : b.perform operation = .done result next)
    (hall : next.performAll operations = (outcomes, last)) :
    b.performAll (operation :: operations) = (.ok result :: outcomes, last) := by
  simp [performAll, h, Reply.done, hall]

lemma perform_put {b : Buffer} (hb : b.isReadOnly = false) (v : Typed) :
    b.perform (.putNumber v.type v.value) = .done .nothing (b.append (v.encode b.order)) := by
  rw [perform, putNumber, put_of_writable hb]
  rfl

/-- An encoding at the front can be got as any type that is as wide. -/
lemma perform_get {b : Buffer} {v : Typed} {t : NumberType} {rest : List UInt8}
    (hb : b.readable = v.encode b.order ++ rest) (ht : t.width = v.type.width) :
    b.perform (.getNumber t) =
      .done (.number (v.as t).value)
        { b with readerIndex := b.readerIndex + t.width, readable := rest } := by
  have hlength : (v.encode b.order).length = t.width := by rw [Typed.length_encode, ht]
  rw [perform, getNumber, take_of_le (by rw [hb, List.length_append]; omega), hb, ← hlength,
    List.take_left, List.drop_left]
  simp only [Reply.map, Reply.done, Except.map, v.decode_encode b.order ht]

lemma performAll_puts {b : Buffer} (hb : b.isReadOnly = false) (values : List Typed) :
    ∃ last, b.performAll (puts values) = (values.map fun _ => .ok .nothing, last) ∧
      last.order = b.order ∧
      last.readable = b.readable ++ values.flatMap (Typed.encode b.order) := by
  induction values generalizing b with
  | nil => exact ⟨b, rfl, rfl, (List.append_nil _).symm⟩
  | cons v values ih =>
    obtain ⟨last, hall, horder, hreadable⟩ := ih (b := b.append (v.encode b.order)) hb
    refine ⟨last, performAll_cons (perform_put hb v) hall, horder, ?_⟩
    rw [hreadable, readable_append, List.append_assoc, List.flatMap_cons]
    rfl

/-- The encodings of numbers can be got as any types that are as wide, one by one. -/
lemma performAll_gets {b : Buffer} {values : List Typed} {types : List NumberType}
    {rest : List UInt8} (hb : b.readable = values.flatMap (Typed.encode b.order) ++ rest)
    (hwidths : types.map NumberType.width = values.map fun v => v.type.width) :
    ∃ last, b.performAll (gets types) = (got values types, last) ∧ last.readable = rest := by
  induction values generalizing b types with
  | nil =>
    obtain rfl := List.map_eq_nil_iff.mp hwidths
    exact ⟨b, rfl, hb⟩
  | cons v values ih =>
    obtain ⟨t, types, rfl, ht, hwidths⟩ := List.map_eq_cons_iff.mp hwidths
    rw [List.flatMap_cons, List.append_assoc] at hb
    have hget := perform_get hb ht
    obtain ⟨last, hall, hreadable⟩ := @ih (b.perform (.getNumber t)).state types
      (by rw [hget]; rfl) hwidths
    rw [hget] at hall
    exact ⟨last, performAll_cons hget hall, hreadable⟩

/-! ### Round trips -/

/-- What buffers of a byte order make of numbers. -/
structure RoundTrips (order : ByteOrder) : Prop where
  /-- Numbers put into an empty buffer come back, and lie there as their encodings in between. -/
  put_get (b : Buffer) (horder : b.order = order) (hb : b.isReadOnly = false)
    (hempty : b.readable = []) (values : List Typed) :
    ∃ full last : Buffer,
      b.performAll (puts values) = (values.map fun _ => .ok .nothing, full) ∧
      full.readable = values.flatMap (Typed.encode order) ∧
      full.performAll (gets (values.map Typed.type)) =
        (values.map fun v => .ok (.number v.value), last) ∧
      last.readable = []
  encode_big (v : Typed) :
    v.encode .big = Number.bigEndian (BitVec.ofInt (8 * v.type.width) v.value)
  encode_little (v : Typed) : v.encode .little = (v.encode .big).reverse
  /-- Bytes come back from the numbers that are got of them. -/
  get_put (b : Buffer) (horder : b.order = order) (types : List NumberType)
    (hwidths : (types.map NumberType.width).sum = b.readable.length)
    (c : Buffer) (hc : c.order = order) (hwrite : c.isReadOnly = false) :
    ∃ (values : List Typed) (last full : Buffer),
      values.map Typed.type = types ∧
      b.performAll (gets types) = (values.map fun v => .ok (.number v.value), last) ∧
      last.readable = [] ∧
      c.performAll (puts values) = (values.map fun _ => .ok .nothing, full) ∧
      full.readable = c.readable ++ b.readable
  /-- Numbers can be got as types of the same widths. -/
  put_get_as (b : Buffer) (horder : b.order = order) (hb : b.isReadOnly = false)
    (hempty : b.readable = []) (values : List Typed) (types : List NumberType)
    (hwidths : types.map NumberType.width = values.map fun v => v.type.width) :
    ∃ full last : Buffer,
      b.performAll (puts values) = (values.map fun _ => .ok .nothing, full) ∧
      full.performAll (gets types) = (got values types, last) ∧
      last.readable = []
  /-- They are then the numbers of these types that are congruent to what was put. -/
  as_eq_iff (v w : Typed) :
    v.as w.type = w ↔ w.value ≡ v.value [ZMOD 2 ^ (8 * w.type.width)]

lemma put_get_as {b : Buffer} (hb : b.isReadOnly = false) (hempty : b.readable = [])
    {values : List Typed} {types : List NumberType}
    (hwidths : types.map NumberType.width = values.map fun v => v.type.width) :
    ∃ full last : Buffer,
      b.performAll (puts values) = (values.map fun _ => .ok .nothing, full) ∧
      full.readable = values.flatMap (Typed.encode b.order) ∧
      full.performAll (gets types) = (got values types, last) ∧
      last.readable = [] := by
  obtain ⟨full, hput, horder, hreadable⟩ := performAll_puts hb values
  rw [hempty, List.nil_append] at hreadable
  have hfull : full.readable = values.flatMap (Typed.encode full.order) ++ [] := by
    rw [hreadable, horder, List.append_nil]
  obtain ⟨last, hget, hlast⟩ := performAll_gets hfull hwidths
  exact ⟨full, last, hput, hreadable, hget, hlast⟩

theorem numbers_round_trip (order : ByteOrder) : RoundTrips order where
  put_get b horder hb hempty values := by
    subst horder
    rw [← got_type]
    exact put_get_as hb hempty (by rw [List.map_map]; rfl)
  encode_big v := Number.encode_big v.type v.value
  encode_little v := Number.encode_little v.type v.value
  get_put b horder types hwidths c hc hwrite := by
    subst horder
    obtain ⟨values, rfl, hbytes⟩ :=
      Typed.exists_flatMap_encode b.order types b.readable hwidths
    have hb : b.readable = values.flatMap (Typed.encode b.order) ++ [] := by
      rw [hbytes, List.append_nil]
    obtain ⟨last, hget, hlast⟩ := performAll_gets hb (by rw [List.map_map]; rfl)
    obtain ⟨full, hput, -, hfull⟩ := performAll_puts hwrite values
    rw [hc, hbytes] at hfull
    rw [got_type] at hget
    exact ⟨values, last, full, rfl, hget, hlast, hput, hfull⟩
  put_get_as b horder hb hempty values types hwidths := by
    subst horder
    obtain ⟨full, last, hput, -, hget⟩ := put_get_as hb hempty hwidths
    exact ⟨full, last, hput, hget⟩
  as_eq_iff v w := by
    have hm : (w.type.modulus : Int) = 2 ^ (8 * w.type.width) := by rw [w.type.modulus_eq]; simp
    rw [← hm]
    constructor
    · intro h
      rw [← congrArg Typed.value h]
      exact w.type.wrap_modEq v.value
    · intro h
      have hvalue : w.type.wrap v.value = w.value :=
        w.type.eq_of_modEq (w.type.holds_wrap v.value) w.holds
          ((w.type.wrap_modEq v.value).trans h.symm)
      simp only [Typed.as, hvalue]

/-- A buffer that has to grow: a number below zero is got as the word that stands for it. -/
theorem numbers_round_trip_of_three :
    ∃ full last : Buffer,
      (dedicated .little 4).performAll
          (puts [⟨.u16, 258, by decide⟩, ⟨.i32, -2, by decide⟩, ⟨.u8, 7, by decide⟩]) =
        ([.ok .nothing, .ok .nothing, .ok .nothing], full) ∧
      full.performAll (gets [.i16, .u32, .u8]) =
        ([.ok (.number 258), .ok (.number 4294967294), .ok (.number 7)], last) ∧
      last.readable = [] :=
  (numbers_round_trip .little).put_get_as (dedicated .little 4) rfl rfl rfl _ _ rfl

end BytePool.Buffer
