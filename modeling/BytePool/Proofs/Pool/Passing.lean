import BytePool.Proofs.Pool.Adopting
import BytePool.Proofs.Session.Overflow
import BytePool.Proofs.Session.Truthful

/-!
# Bytes that are passed on

Bytes go out of one object into the next, from memory into a buffer or a region, from there into a
pool and out again. On every way what arrives at the end are the bytes from the start but those that
were taken or left behind on the way, although the objects in between may well keep them.
-/
namespace BytePool.Passing
open Buffer (taken)

/-! ### Ways of bytes -/

/-- How bytes are brought to a pool: as they are or as a region after some moves. -/
inductive Offer where
  | bytes
  /-- The range of all bytes. -/
  | range (order : ByteOrder)
  | adopted (order : ByteOrder) (moves : List Region.Move) (storage : Region.Storage)
  | copied (order : ByteOrder) (moves : List Region.Move) (storage : Region.Storage)
  deriving DecidableEq, Repr

namespace Offer

def request (bytes : List UInt8) : Offer → Pool.Request
  | .bytes => .copyBytes bytes
  | range order => .copyRange order bytes 0 bytes.length
  | adopted order moves storage => .adoptRegion (.brought order bytes moves storage)
  | copied order moves storage => .copyRegion (.brought order bytes moves storage)

/-- How many bytes the moves have left behind. -/
def skipped (bytes : List UInt8) : Offer → Nat
  | .bytes | range _ => 0
  | adopted order moves storage | copied order moves storage =>
    (Region.brought order bytes moves storage).position

end Offer

/-- Where a buffer has its bytes from. -/
inductive Source (P : Type) where
  | wrapped (order : ByteOrder) (spare : Nat)
  | pooled (pool : P) (offer : Offer)
  deriving DecidableEq, Repr

/-- An operation that takes bytes, if there are as many. -/
abbrev Reading := { operation : Buffer.Operation // operation.Reads }

/-- How many bytes were taken by the readings that succeeded. -/
def consumed : List Reading → List (Except Failure Buffer.Result) → Nat
  | reading :: readings, outcome :: outcomes =>
    (if outcome.isOk then taken reading else 0) + consumed readings outcomes
  | _, _ => 0

/-- How bytes get out of a buffer. -/
inductive Leaving where
  | asSlice
  | freeze
  deriving DecidableEq, Repr

/-- One object on the way, with what is done to it before the bytes leave it. Its pool may be in any
state, and so in the one that links before it have left. -/
inductive Link (P : Type) where
  | region (order : ByteOrder) (moves : List Region.Move) (storage : Region.Storage)
  | buffer (source : Source P) (readings : List Reading) (leaving : Leaving)

def Source.map {P Q : Type} (f : P → Q) : Source P → Source Q
  | wrapped order spare => wrapped order spare
  | pooled pool offer => pooled (f pool) offer

def Source.pools {P : Type} : Source P → List P
  | wrapped _ _ => []
  | pooled pool _ => [pool]

/-- The pools that have a part in it. -/
def Link.pools {P : Type} : Link P → List P
  | region _ _ _ => []
  | buffer source _ _ => source.pools

def Link.map {P Q : Type} (f : P → Q) : Link P → Link Q
  | region order moves storage => region order moves storage
  | buffer source readings leaving => buffer (source.map f) readings leaving

/-! ### The way of bytes through plain objects -/

/-- A buffer with the bytes, and how many of them were left behind. -/
def Source.fill (bytes : List UInt8) : Source Pool → Reply Unit (Buffer × Nat)
  | wrapped order spare => .done (.wrapFrom order bytes spare 0, 0) ()
  | pooled pool offer =>
    ((pool.serve (offer.request bytes)).within fun _ => ()).map (·, offer.skipped bytes)

def Leaving.bytes (b : Buffer) : Leaving → List UInt8
  | asSlice => b.readable
  | freeze => b.freeze

/-- The bytes that leave, and how many do not. -/
def Link.pass (bytes : List UInt8) : Link Pool → Reply Unit (List UInt8 × Nat)
  | region order moves storage =>
    let region := Region.brought order bytes moves storage
    .done (region.readable, region.position) ()
  | buffer source readings leaving =>
    (source.fill bytes).map fun (b, skipped) =>
      let (outcomes, last) := b.performAll (readings.map Subtype.val)
      (leaving.bytes last, skipped + consumed readings outcomes)

/-- The bytes at the end, and how many were lost in all the links. -/
def passAll (bytes : List UInt8) : List (Link Pool) → Reply Unit (List UInt8 × Nat)
  | [] => .done (bytes, 0) ()
  | link :: links =>
    (link.pass bytes).bind fun _ (next, skipped) =>
      (passAll next links).map (Prod.map id (skipped + ·))

/-! ### The way of bytes through storage -/

def Source.checkedFill (bytes : List UInt8) :
    Source Checked.Pool → Attempt Unit (Checked.Buffer × Nat)
  | wrapped order spare =>
    Except.map (fun b => .done (b, 0) ()) (Checked.Buffer.wrapFrom order bytes spare 0)
  | pooled pool offer =>
    (Attempt.within (fun _ => ()) (pool.serve (offer.request bytes))).read fun b =>
      .ok (b, offer.skipped bytes)

def Leaving.checkedBytes (b : Checked.Buffer) : Leaving → Except Fault (List UInt8)
  | asSlice => b.asSlice
  | freeze => b.freeze

def Link.checkedPass (bytes : List UInt8) :
    Link Checked.Pool → Attempt Unit (List UInt8 × Nat)
  | region order moves storage =>
    let region := Region.brought order bytes moves storage
    Except.map (fun readable => .done (readable, region.position) ()) region.checkedReadable
  | buffer source readings leaving =>
    (source.checkedFill bytes).read fun (b, skipped) => do
      let (outcomes, last) ← b.performAll (readings.map Subtype.val)
      return (← leaving.checkedBytes last, skipped + consumed readings outcomes)

def checkedPassAll (bytes : List UInt8) : List (Link Checked.Pool) → Attempt Unit (List UInt8 × Nat)
  | [] => .ok (.done (bytes, 0) ())
  | link :: links =>
    (link.checkedPass bytes).bind fun _ (next, skipped) =>
      (checkedPassAll next links).read fun rest => .ok (rest.map id (skipped + ·))

/-! ### What arrives -/

/-- What is left of bytes once so many of them are gone. -/
structure IsRest (bytes rest : List UInt8) (gone : Nat) : Prop where
  gone_le : gone ≤ bytes.length
  eq_drop : rest = bytes.drop gone

namespace IsRest
variable {bytes next last : List UInt8} {n m : Nat}

lemma refl (bytes : List UInt8) : IsRest bytes bytes 0 := ⟨Nat.zero_le _, rfl⟩

lemma trans (h : IsRest bytes next n) (h' : IsRest next last m) : IsRest bytes last (n + m) := by
  obtain ⟨hn, rfl⟩ := h
  obtain ⟨hm, rfl⟩ := h'
  rw [List.length_drop] at hm
  exact ⟨by omega, List.drop_drop⟩

lemma length_le (h : IsRest bytes next n) : next.length ≤ bytes.length := by
  rw [h.eq_drop, List.length_drop]
  exact Nat.sub_le _ _

end IsRest

section Arriving
variable (bytes : List UInt8)

/-- Moves lead to a position of the region and leave its bytes as they are. -/
lemma isRest_brought (order : ByteOrder) (moves : List Region.Move) (storage : Region.Storage) :
    IsRest bytes (Region.brought order bytes moves storage).readable
      (Region.brought order bytes moves storage).position := by
  obtain ⟨position, hle, mark, heq⟩ := Region.exists_brought order bytes moves
  rw [heq storage]
  exact ⟨hle, rfl⟩

lemma Offer.isRest (offer : Offer) :
    IsRest bytes (offer.request bytes).content (offer.skipped bytes) := by
  cases offer with
  | bytes => exact .refl bytes
  | range order =>
    have hall : (bytes.drop 0).take bytes.length = bytes := List.take_length
    simpa [request, Pool.Request.content, skipped, hall] using IsRest.refl bytes
  | adopted order moves storage => exact isRest_brought bytes order moves storage
  | copied order moves storage => exact isRest_brought bytes order moves storage

/-- The range of all bytes ends where they do. -/
lemma Offer.exceeds_eq (offer : Offer) : (offer.request bytes).exceeds = false := by
  cases offer with
  | range order => simp [request, Pool.Request.exceeds]
  | _ => rfl

lemma Offer.size_le (offer : Offer) : (offer.request bytes).size ≤ bytes.length := by
  cases offer with
  | bytes | range order => exact le_rfl
  | adopted order moves storage | copied order moves storage =>
    have hrest := (isRest_brought bytes order moves storage).length_le
    rwa [Region.length_readable] at hrest

end Arriving

/-- What a pool delivers holds the bytes that were asked for and no others. -/
lemma readable_of_serve {pool : Pool} {request : Pool.Request} {b : Buffer}
    (h : (pool.serve request).outcome = .ok b) : b.readable = request.content := by
  by_cases hover : request.handsOver = true
  · obtain ⟨region, spare, rfl, -, hserve⟩ := Pool.serve_of_handsOver pool request hover
    rw [hserve] at h
    obtain rfl := Except.ok.inj h
    rfl
  rw [Bool.not_eq_true] at hover
  obtain hsize | hpos := Nat.eq_zero_or_pos request.size
  · rw [Pool.serve_of_asksNothing ⟨hsize, hover⟩] at h
    obtain rfl := Except.ok.inj h
    have hlength := request.length_content_le
    exact (List.eq_nil_of_length_eq_zero (by omega)).symm
  · obtain ⟨made, -, -, hzero, rfl⟩ := Pool.filled_of_serve hpos hover h
    have hnil : made.readable = [] :=
      List.eq_nil_of_length_eq_zero (Nat.add_eq_zero_iff.mp hzero).2
    rw [Buffer.readable_append, hnil, List.nil_append]

lemma isRest_take (b : Buffer) (length : Nat) :
    IsRest b.readable (b.take length).state.readable
      (if (b.take length).outcome.isOk then length else 0) := by
  unfold Buffer.take
  split
  case isTrue => exact .refl _
  case isFalse hle => exact ⟨Nat.le_of_not_lt hle, rfl⟩

/-- A reading takes its bytes from the front, or nothing at all. -/
lemma isRest_perform (b : Buffer) (reading : Reading) :
    IsRest b.readable (b.perform reading).state.readable
      (if (b.perform reading).outcome.isOk then taken reading else 0) := by
  have hmap {α β : Type} (reply : Reply Buffer α) (f : α → β) :
      (reply.map f).outcome.isOk = reply.outcome.isOk := by
    obtain ⟨_ | _, _, _⟩ := reply <;> rfl
  obtain ⟨operation, hreads⟩ := reading
  cases operation with
  | getNumber type =>
    simpa only [Buffer.perform, Buffer.getNumber, hmap, Reply.state_map, taken] using
      isRest_take b type.width
  | readInto length =>
    simpa only [Buffer.perform, hmap, Reply.state_map, taken] using isRest_take b length
  | skip length =>
    simpa only [Buffer.perform, Buffer.skip, hmap, Reply.state_map, taken] using
      isRest_take b length
  | _ => cases hreads

lemma isRest_performAll (b : Buffer) (readings : List Reading) :
    IsRest b.readable (b.performAll (readings.map Subtype.val)).2.readable
      (consumed readings (b.performAll (readings.map Subtype.val)).1) := by
  induction readings generalizing b with
  | nil => exact .refl _
  | cons reading readings ih =>
    exact (isRest_perform b reading).trans (ih (b.perform reading).state)

/-! ### What arrives at the end -/

/-- A buffer gets all the bytes, unless the memory for them cannot be had. -/
lemma Source.outcome_fill (source : Source Pool) (bytes : List UInt8) :
    (source.fill bytes).outcome = .error .capacityOverflow ∨
      ∃ b skipped, (source.fill bytes).outcome = .ok (b, skipped) ∧
        IsRest bytes b.readable skipped := by
  cases source with
  | wrapped order spare => exact .inr ⟨_, 0, rfl, .refl bytes⟩
  | pooled pool offer =>
    have hfill : ((pooled pool offer).fill bytes).outcome =
      (pool.serve (offer.request bytes)).outcome.map (·, offer.skipped bytes) := rfl
    rw [hfill]
    by_cases hover : (pool.serve (offer.request bytes)).outcome = .error .capacityOverflow
    · rw [hover]
      exact .inl rfl
    · obtain ⟨b, ho⟩ := pool.served_of_fits _ (offer.exceeds_eq bytes) hover
      have hrest := offer.isRest bytes
      rw [← readable_of_serve ho] at hrest
      rw [ho]
      exact .inr ⟨b, _, rfl, hrest⟩

lemma Link.outcome_pass (link : Link Pool) (bytes : List UInt8) :
    (link.pass bytes).outcome = .error .capacityOverflow ∨
      ∃ rest gone, (link.pass bytes).outcome = .ok (rest, gone) ∧ IsRest bytes rest gone := by
  cases link with
  | region order moves storage => exact .inr ⟨_, _, rfl, isRest_brought bytes order moves storage⟩
  | buffer source readings leaving =>
    obtain ho | ⟨b, skipped, ho, hrest⟩ := source.outcome_fill bytes
    · exact .inl (by rw [pass, Reply.map, ho]; rfl)
    · have hread := isRest_performAll b readings
      have hleave (last : Buffer) : leaving.bytes last = last.readable := by cases leaving <;> rfl
      refine .inr ⟨_, _, by rw [pass, Reply.map, ho]; rfl, ?_⟩
      rw [hleave]
      exact hrest.trans hread

lemma outcome_passAll (links : List (Link Pool)) (bytes : List UInt8) :
    (passAll bytes links).outcome = .error .capacityOverflow ∨
      ∃ rest gone, (passAll bytes links).outcome = .ok (rest, gone) ∧ IsRest bytes rest gone := by
  induction links generalizing bytes with
  | nil => exact .inr ⟨bytes, 0, rfl, .refl bytes⟩
  | cons link links ih =>
    obtain ho | ⟨next, gone, ho, hnext⟩ := link.outcome_pass bytes
    · exact .inl (by rw [passAll, Reply.bind_of_error ho])
    · rw [passAll, Reply.bind_of_ok ho]
      obtain hlater | ⟨last, later, hlater, hlast⟩ := ih next
      · exact .inl (by simp [Reply.map, hlater, Except.map])
      · exact .inr ⟨last, gone + later, by simp [Reply.map, hlater, Except.map],
          hnext.trans hlast⟩

/-! ### Memory that can be had -/

/-- Pools whose slabs can be in memory serve bytes that are. -/
lemma serve_fits {pool : Pool} (hpool : pool.Reachable) (hslab : pool.slabCapacity ≤ maxAllocation)
    {request : Pool.Request} (hsize : request.size ≤ maxAllocation) :
    (pool.serve request).outcome ≠ .error .capacityOverflow := by
  rw [Ne, Pool.serve_overflow_iff]
  rintro ⟨-, -, ⟨-, hlarge⟩ | ⟨-, -, -, hlarge⟩⟩
  · exact Nat.not_lt.mpr hsize hlarge
  · rw [hpool.sound.slabCapacity_eq] at hlarge
    exact Nat.not_lt.mpr hslab hlarge

lemma Link.pass_fits {link : Link Pool} {bytes : List UInt8} (hmax : bytes.length ≤ maxAllocation)
    (hpools : ∀ pool ∈ link.pools, pool.Reachable ∧ pool.slabCapacity ≤ maxAllocation) :
    (link.pass bytes).outcome ≠ .error .capacityOverflow := by
  cases link with
  | region order moves storage => nofun
  | buffer source readings leaving =>
    cases source with
    | wrapped order spare => nofun
    | pooled pool offer =>
      obtain ⟨hpool, hslab⟩ := hpools pool (List.mem_singleton_self pool)
      have hfits := serve_fits hpool hslab ((offer.size_le bytes).trans hmax)
      intro h
      cases ho : (pool.serve (offer.request bytes)).outcome with
      | error failure =>
        rw [ho] at hfits
        simp [pass, Source.fill, Reply.map, Reply.within, ho, Except.map] at h
        exact hfits (congrArg _ h)
      | ok b => simp [pass, Source.fill, Reply.map, Reply.within, ho, Except.map] at h

/-- A chain breaks only for pools whose slabs no memory can hold, or bytes that it cannot hold. -/
theorem passAll_fits {links : List (Link Pool)} {bytes : List UInt8}
    (hmax : bytes.length ≤ maxAllocation)
    (hpools : ∀ link ∈ links, ∀ pool ∈ link.pools,
      pool.Reachable ∧ pool.slabCapacity ≤ maxAllocation) :
    (passAll bytes links).outcome ≠ .error .capacityOverflow := by
  induction links generalizing bytes with
  | nil => nofun
  | cons link links ih =>
    obtain ⟨hlink, hlinks⟩ := List.forall_mem_cons.mp hpools
    obtain ho | ⟨next, gone, ho, hnext⟩ := link.outcome_pass bytes
    · exact absurd ho (link.pass_fits hmax hlink)
    · have hlater := ih (hnext.length_le.trans hmax) hlinks
      rw [passAll, Reply.bind_of_ok ho]
      exact fun h => hlater (Reply.outcome_map_error.mp h)

/-! ### Storage -/

/-- A pool that can serve everything up to a size. -/
structure Ready (size : Nat) (pool : Checked.Pool) : Prop where
  sound : pool.Sound
  hasRoom : ∀ order capacity, capacity ≤ size → pool.HasRoom order capacity

lemma Ready.mono {size less : Nat} {pool : Checked.Pool} (h : Ready size pool) (hle : less ≤ size) :
    Ready less pool :=
  ⟨h.sound, fun order capacity hcapacity => h.hasRoom order capacity (hcapacity.trans hle)⟩

lemma Offer.sound {bytes : List UInt8} (h : bytes.length ≤ maxAllocation) (offer : Offer) :
    Checked.Request.Sound (offer.request bytes) := by
  have hbrought (order : ByteOrder) (moves : List Region.Move) (storage : Region.Storage) :
      (Region.brought order bytes moves storage).Sound := by
    induction moves using List.reverseRecOn with
    | nil => exact Region.sound_new storage order h
    | append_singleton moves m ih =>
      rw [Region.brought, Region.moveAll_append]
      exact ih.move m
  cases offer with
  | bytes | range order => exact h
  | adopted order moves storage | copied order moves storage => exact hbrought order moves storage

lemma Source.fill_follows {bytes : List UInt8} (h : bytes.length ≤ maxAllocation)
    {source : Source Checked.Pool} (hready : ∀ pool ∈ source.pools, Ready bytes.length pool) :
    (source.checkedFill bytes).Follows .same (Checked.Buffer.stored.prod .same)
      ((source.map Checked.Pool.view).fill bytes) := by
  cases source with
  | wrapped order spare =>
    obtain ⟨b, hwrap, hb, hview⟩ :=
      Checked.Buffer.wrapFrom_eq order spare (Nat.zero_le bytes.length) h
    simp only [checkedFill, hwrap, Except.map, Source.map, fill, ← hview]
    exact .done (B := Checked.Buffer.stored.prod .same) trivial ⟨hb, trivial⟩
  | pooled pool offer =>
    obtain ⟨hsound, hroom⟩ := hready pool (List.mem_singleton_self pool)
    have hserve := Checked.Pool.serve_follows hsound (offer.sound h)
      fun _ _ => hroom _ _ (offer.size_le bytes)
    refine (hserve.within (D := .same) (f := fun _ => ()) (g := fun _ => ())
      fun _ _ => ⟨trivial, rfl⟩).read fun b hb => ?_
    exact ⟨(b, offer.skipped bytes), rfl, ⟨hb, trivial⟩, rfl⟩

/-- Readings put nothing. -/
lemma sum_written (readings : List Reading) :
    ((readings.map Subtype.val).map Checked.Buffer.written).sum = 0 := by
  refine List.sum_eq_zero fun n hn => ?_
  simp only [List.map_map, List.mem_map, Function.comp_apply] at hn
  obtain ⟨⟨operation, hreads⟩, -, rfl⟩ := hn
  cases operation with
  | getNumber | readInto | skip => rfl
  | _ => cases hreads

lemma Link.checkedPass_eq {bytes : List UInt8} (h : bytes.length ≤ maxAllocation)
    {link : Link Checked.Pool} (hready : ∀ pool ∈ link.pools, Ready bytes.length pool) :
    link.checkedPass bytes = .ok ((link.map Checked.Pool.view).pass bytes) := by
  cases link with
  | region order moves storage =>
    obtain ⟨position, hle, mark, heq⟩ := Region.exists_brought order bytes moves
    have hreadable : (Region.brought order bytes moves storage).checkedReadable =
        .ok (Region.brought order bytes moves storage).readable := by
      rw [heq storage]
      exact Checked.suffix_of_le hle
    rw [checkedPass, hreadable]
    rfl
  | buffer source readings leaving =>
    refine ((Source.fill_follows h hready).read fun (b, skipped) hb => ?_).eq_ok
    obtain ⟨last, hlast, hsound, hview⟩ := Checked.Buffer.performAll_follows hb.1
      (readings.map Subtype.val) (by rw [sum_written]; exact hb.1.writerIndex_le)
    have hleave : leaving.checkedBytes last = .ok (leaving.bytes last.view) := by
      cases leaving with
      | asSlice => exact hsound.asSlice_eq
      | freeze => exact hsound.freeze_eq
    refine ⟨_, ?_, trivial, rfl⟩
    simp only [hlast, hleave, hview, bind, Except.bind, pure, Except.pure]
    rfl

theorem checkedPassAll_eq {links : List (Link Checked.Pool)} {bytes : List UInt8}
    (h : bytes.length ≤ maxAllocation)
    (hready : ∀ link ∈ links, ∀ pool ∈ link.pools, Ready bytes.length pool) :
    checkedPassAll bytes links = .ok (passAll bytes (links.map (Link.map Checked.Pool.view))) := by
  induction links generalizing bytes with
  | nil => rfl
  | cons link links ih =>
    obtain ⟨hlink, hlinks⟩ := List.forall_mem_cons.mp hready
    rw [checkedPassAll, link.checkedPass_eq h hlink, List.map_cons, passAll]
    obtain ho | ⟨next, gone, ho, hnext⟩ := (link.map Checked.Pool.view).outcome_pass bytes
    · rw [Reply.bind_of_error ho]
      simp [Attempt.bind, Except.bind, ho]
    · have hlater := ih (hnext.length_le.trans h) fun link hmem pool hpool =>
        (hlinks link hmem pool hpool).mono hnext.length_le
      rw [Reply.bind_of_ok ho, Attempt.ok_bind_of_ok ho]
      simp only [hlater, Attempt.ok_read]
      rfl

/-- A new pool can serve everything that is in memory. -/
lemma ready_start (order : ByteOrder) {slabCapacity size : Nat} (hpos : 0 < slabCapacity)
    (hmax : size ≤ maxAllocation) : Ready size (.start (.fresh order slabCapacity)) where
  sound := Checked.Pool.sound_start hpos
  hasRoom o capacity hle _ _ := by
    have hone : 0 + 1 ≤ maxWord := by decide
    have hbytes : 0 + capacity ≤ maxWord := by
      rw [Nat.zero_add]
      exact (hle.trans hmax).trans (by decide)
    rw [Checked.Pool.start, PerOrder.get_ofFn]
    exact ⟨fun _ => hone, fun _ => hone, fun _ => hbytes⟩

/-! ### Nothing is lost -/

/-- The same link with another way out of its buffer. -/
def Link.leaveBy {P : Type} (leaving : Leaving) : Link P → Link P
  | region order moves storage => region order moves storage
  | buffer source readings _ => buffer source readings leaving

/-- To freeze a buffer gives the same bytes as to copy what it has left. -/
lemma passAll_leaveBy (leaving : Leaving) (bytes : List UInt8) (links : List (Link Pool)) :
    passAll bytes (links.map (Link.leaveBy leaving)) = passAll bytes links := by
  have hlink (bytes : List UInt8) (link : Link Pool) :
      (link.leaveBy leaving).pass bytes = link.pass bytes := by
    cases link with
    | region order moves storage => rfl
    | buffer source readings left => cases leaving <;> cases left <;> rfl
  induction links generalizing bytes with
  | nil => rfl
  | cons link links ih => simp only [List.map_cons, passAll, hlink, ih]

/-- All that comes of bytes on their way through links. -/
structure Preserved (bytes : List UInt8) (links : List (Link Pool)) : Prop where
  /-- Only what was taken or left behind is gone, and it lay in front. -/
  arrives : ∃ gone ≤ bytes.length, (passAll bytes links).outcome = .ok (bytes.drop gone, gone)
  leaveBy_eq : ∀ leaving,
    passAll bytes (links.map (Link.leaveBy leaving)) = passAll bytes links
  /-- Objects that keep in storage what was taken or left behind pass on the same bytes. -/
  stored : ∀ storedLinks : List (Link Checked.Pool),
    storedLinks.map (Link.map Checked.Pool.view) = links → bytes.length ≤ maxAllocation →
    (∀ link ∈ storedLinks, ∀ pool ∈ link.pools, Ready bytes.length pool) →
    checkedPassAll bytes storedLinks = .ok (passAll bytes links)

/-- As long as there is memory, bytes arrive as they were, in their sequence and without any others,
but for those from the front that were taken or left behind. -/
theorem passAll_preserved (bytes : List UInt8) (links : List (Link Pool))
    (hfits : (passAll bytes links).outcome ≠ .error .capacityOverflow) : Preserved bytes links := by
  constructor
  case arrives =>
    obtain ho | ⟨rest, gone, ho, hle, rfl⟩ := outcome_passAll links bytes
    · exact absurd ho hfits
    · exact ⟨gone, hle, ho⟩
  case leaveBy_eq => exact fun leaving => passAll_leaveBy leaving bytes links
  case stored =>
    rintro storedLinks rfl hmax hready
    exact checkedPassAll_eq hmax hready

/-- Wrapped memory is read from its third byte on and frozen, the mark of a region leaves out one
more, a copy of the rest in memory of its own refuses to be read, and the last copy loses a byte. -/
theorem passAll_preserved_of_five :
    let storedLinks : List (Link Checked.Pool) :=
      [.buffer (.pooled (.start (.fresh .big 4)) (.adopted .little [.setPosition 1] (.direct 3)))
          [⟨.skip 1, trivial⟩, ⟨.getNumber .u64, trivial⟩] .freeze,
        .region .big [.setPosition 1, .setMark, .setPosition 2, .reset] .heap,
        .buffer (.pooled (.start (.fresh .big 2)) (.range .little)) [⟨.readInto 3, trivial⟩]
          .asSlice,
        .buffer (.pooled (.start (.fresh .little 4)) (.copied .big [] .readOnly))
          [⟨.readInto 1, trivial⟩] .freeze]
    let links := storedLinks.map (Link.map Checked.Pool.view)
    (passAll [1, 2, 3, 4, 5] links).outcome ≠ .error .capacityOverflow ∧
      (passAll [1, 2, 3, 4, 5] links).outcome = .ok ([5], 4) ∧
      checkedPassAll [1, 2, 3, 4, 5] storedLinks = .ok (passAll [1, 2, 3, 4, 5] links) := by
  intro storedLinks links
  have hmax : ([1, 2, 3, 4, 5] : List UInt8).length ≤ maxAllocation := by decide
  have hfits : (passAll [1, 2, 3, 4, 5] links).outcome ≠ .error .capacityOverflow := by
    refine passAll_fits hmax ?_
    simp only [links, storedLinks, List.map_cons, List.map_nil, List.forall_mem_cons,
      List.not_mem_nil, false_imp_iff, implies_true, and_true, true_and, Link.map, Source.map,
      Link.pools, Source.pools]
    exact ⟨⟨Pool.reachable_fresh .big (show 0 < 4 by decide), by decide⟩,
      ⟨Pool.reachable_fresh .big (show 0 < 2 by decide), by decide⟩,
      Pool.reachable_fresh .little (show 0 < 4 by decide), by decide⟩
  have hpreserved := passAll_preserved [1, 2, 3, 4, 5] links hfits
  have hready : ∀ link ∈ storedLinks, ∀ pool ∈ link.pools, Ready 5 pool := by
    simp only [storedLinks, List.forall_mem_cons, List.not_mem_nil, false_imp_iff, implies_true,
      and_true, true_and, Link.pools, Source.pools]
    exact ⟨ready_start _ (by decide) hmax, ready_start _ (by decide) hmax,
      ready_start _ (by decide) hmax⟩
  obtain ⟨gone, -, ho⟩ := hpreserved.arrives
  have hgone : (passAll [1, 2, 3, 4, 5] links).outcome.map Prod.snd = .ok 4 := by decide
  rw [ho] at hgone
  obtain rfl : gone = 4 := Except.ok.inj hgone
  exact ⟨hfits, ho, hpreserved.stored storedLinks rfl hmax hready⟩

end BytePool.Passing
