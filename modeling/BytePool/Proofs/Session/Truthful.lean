import BytePool.Proofs.Checked.Pool
import BytePool.Proofs.Session.Atomic
import BytePool.Proofs.Session.Empty

/-!
# Ends out of range

Whoever is told that an end is out of range has asked for an end beyond what is there, and is told
how much is there. The end is told as the greatest machine word if it is beyond all words, and what
is there is always less than that.
-/
namespace BytePool

/-! ### What is in memory -/

lemma Region.Sound.move {region : Region} (h : region.Sound) (m : Region.Move) :
    (region.move m).Sound := by
  cases m with
  | setPosition position => exact h.setPosition position
  | setMark => exact h.setMark
  | reset => exact h.reset

/-- What a pool delivers holds no more than what was brought along. -/
lemma Pool.writerIndex_of_serve {pool : Pool} {request : Request} {b : Buffer}
    (hsound : Checked.Request.Sound request) (h : (pool.serve request).outcome = .ok b) :
    b.writerIndex ≤ maxAllocation := by
  by_cases hover : request.handsOver = true
  · obtain ⟨region, spare, rfl, -, hserve⟩ := serve_of_handsOver pool request hover
    rw [hserve] at h
    obtain rfl := Except.ok.inj h
    have hposition := Region.Sound.position_le hsound
    have hlength := Region.Sound.length_le hsound
    simp only [Buffer.writerIndex, Buffer.wrapFrom, List.length_drop, Region.length] at *
    omega
  obtain hsize | hpos := Nat.eq_zero_or_pos request.size
  · rw [serve_of_asksNothing ⟨hsize, by simpa using hover⟩] at h
    obtain rfl := Except.ok.inj h
    exact Nat.zero_le _
  · obtain ⟨made, -, -, hzero, rfl⟩ := filled_of_serve hpos (by simpa using hover) h
    rw [Buffer.writerIndex_append, hzero, Nat.zero_add]
    cases request with
    | buffer | defaultBuffer => exact Nat.zero_le _
    | copyRange order source offset length =>
      have hlength : source.length ≤ maxAllocation := hsound
      simp only [Request.content, List.length_take, List.length_drop]
      omega
    | copyBytes source => exact hsound
    | adoptRegion region | copyRegion region =>
      have hlength := Region.Sound.length_le hsound
      simp only [Request.content, Region.length_readable, Region.remaining]
      omega

/-- A slice of an arena is no larger than a slab, and a slab is an allocation. -/
lemma Arena.Sound.writerIndex_of_allocate {arena : Arena} (hsound : arena.Sound) {capacity : Nat}
    {b : Buffer} (h : (arena.allocate capacity).outcome = .ok b) :
    b.writerIndex ≤ maxAllocation := by
  obtain ⟨s, rfl, hlength, hle⟩ := exists_of_allocate h
  rw [Slice.writerIndex_blank, hlength]
  refine hle.trans (Nat.le_of_not_lt fun hmax => ?_)
  rw [Arena.allocate, hsound.carve_overflow hmax] at h
  split at h <;> cases h

lemma Arena.Sound.allocate_sound {arena : Arena} (hsound : arena.Sound) (capacity : Nat) :
    (arena.allocate capacity).state.Sound := by
  unfold Arena.allocate
  split
  case isTrue => exact hsound
  case isFalse hin => exact hsound.state_carve (by omega) (by omega)

namespace Session

/-- No bytes are more than one allocation can have: those that are brought along, those up to the
writer index of a buffer, those of regions, slabs and chunks. -/
def inMemory : Invariant where
  buffer b := b.writerIndex ≤ maxAllocation
  region := Region.Sound
  bytes content := content.length ≤ maxAllocation
  arena := Arena.Sound
  slab sl := sl.remaining ≤ maxAllocation
  request := Checked.Request.Sound
  operation b op := b.writerIndex + Checked.Buffer.written op ≤ maxAllocation
  buffer_empty := Nat.zero_le _
  buffer_wrap _ h := by simpa [Buffer.wrap, Buffer.wrapFrom, Buffer.writerIndex] using h
  buffer_perform _ h := (Buffer.writerIndex_perform_le _ _).trans h
  buffer_serve _ := Pool.writerIndex_of_serve
  buffer_allocate h hok := h.writerIndex_of_allocate hok
  request_region h := ⟨h, h⟩
  region_new storage order h := Region.sound_new storage order h
  region_move m h := h.move m
  region_copy pool h := by
    have hplaced : Region.Placed _ := ⟨h.position_le, h.mark_le⟩
    rwa [hplaced.copyRegion pool]
  bytes_freeze h := (Nat.le_add_left _ _).trans h
  arena_new := Arena.sound_fresh
  arena_allocate capacity h := h.allocate_sound capacity
  slab_allocate h := by
    unfold Slab.allocate at h
    split at h
    case isTrue => cases h
    case isFalse hle =>
      cases h
      rw [Slab.remaining_mk]
      exact Nat.le_of_not_lt hle
  slab_carve length h := by
    unfold Slab.carve?
    split
    · exact (Slab.remaining_carve _ length).trans_le ((Nat.sub_le _ _).trans h)
    · exact h
  bytes_carve h hcarve := by
    unfold Slab.carve? at hcarve
    split at hcarve
    case isTrue hle =>
      cases hcarve
      exact (Block.length_splitTo hle).trans_le (hle.trans h)
    case isFalse => cases hcarve

/-- Steps of the kind that keep to memory have led here from the start. -/
inductive Reached : Session → Prop
  | start : Reached {}
  | step {s : Session} {command : Command} : Reached s → inMemory.Admits s command →
      Reached (s.step command).session

lemma Reached.holds {s : Session} (h : s.Reached) : inMemory.Holds s := by
  induction h with
  | start => exact inMemory.holds_empty
  | step _ hadmits ih => exact Invariant.holds_step ih hadmits

end Session

/-! ### Who reports an end -/

lemma Reply.outcome_map_error {σ α β : Type} {reply : Reply σ α} {f : α → β} {failure : Failure} :
    (reply.map f).outcome = .error failure ↔ reply.outcome = .error failure := by
  cases ho : reply.outcome <;> simp [map, ho, Except.map]

namespace Buffer
variable {b : Buffer} {op : Operation} {e : Error}

/-- The operations that take bytes. -/
def Operation.Reads : Operation → Prop
  | .getNumber _ | .readInto _ | .skip _ => True
  | .clear | .putSlice _ | .putNumber _ _ => False

lemma take_eq_refused_iff {length : Nat} : (b.take length).outcome = .error (.refused e) ↔
    b.writerIndex < b.readerIndex + length ∧
      e = .indexOutOfRange "reader_index" (min maxWord (b.readerIndex + length)) b.writerIndex := by
  have hlt : b.writerIndex < b.readerIndex + length ↔ b.readable.length < length :=
    Nat.add_lt_add_iff_left
  rw [hlt]
  unfold take
  split
  case isTrue h => simp [Reply.refuse, h, eq_comm]
  case isFalse h => simp [Reply.done, h]

lemma perform_eq_refused_iff (h : op.Reads) : (b.perform op).outcome = .error (.refused e) ↔
    b.writerIndex < b.readerIndex + taken op ∧
      e = .indexOutOfRange "reader_index" (min maxWord (b.readerIndex + taken op))
        b.writerIndex := by
  rw [← take_eq_refused_iff]
  cases op with
  | getNumber | skip => exact Reply.outcome_map_error.trans Reply.outcome_map_error
  | readInto => exact Reply.outcome_map_error
  | _ => cases h

lemma reads_of_perform {argument : String} {value bound : Nat}
    (h : (b.perform op).outcome = .error (.refused (.indexOutOfRange argument value bound))) :
    op.Reads := by
  have hput (name : String) (bytes : List UInt8) :
      (b.put name bytes).outcome ≠ .error (.refused (.indexOutOfRange argument value bound)) := by
    unfold put
    split <;> nofun
  cases op with
  | clear => cases h
  | putSlice bytes =>
    have hslice := Reply.outcome_map_error.mp h
    unfold putSlice at hslice
    split at hslice
    · cases hslice
    · exact absurd hslice (hput _ _)
  | putNumber => exact absurd (Reply.outcome_map_error.mp h) (hput _ _)
  | getNumber | readInto | skip => trivial

end Buffer

lemma Region.setPosition_eq_refused_iff {region : Region} {position : Nat} {e : Error} :
    (region.setPosition position).outcome = .error (.refused e) ↔
      region.length < position ∧ e = .indexOutOfRange "position" position region.length := by
  unfold setPosition
  split
  case isTrue h => simp [Reply.refuse, h, eq_comm]
  case isFalse h => simp [Reply.done, h]

lemma Pool.copyRange_eq_refused_iff {pool : Pool} {order : ByteOrder} {source : List UInt8}
    {offset length : Nat} {e : Error} (hpos : 0 < length) :
    (pool.serve (.copyRange order source offset length)).outcome = .error (.refused e) ↔
      source.length < offset + length ∧
        e = .indexOutOfRange "length" (min maxWord (offset + length)) source.length := by
  by_cases hlt : source.length < offset + length
  · rw [serve, copyRange, if_neg hpos.ne', if_pos hlt]
    simp [Reply.refuse, hlt, eq_comm]
  · refine iff_of_false (fun he => ?_) fun h => hlt h.1
    have hexceeds := (pool.serve_refusedIff _).refused_iff.mp ⟨e, he⟩
    simp [Request.exceeds, hlt] at hexceeds

namespace Session

/-! ### What is asked for -/

/-- The command asks, for the named argument, for everything up to an end, of which there is so
much: the bytes of a source, those up to the writer index of a buffer, or those of a region. -/
inductive Asks (s : Session) : Command → String → (stop bound : Nat) → Prop
  | range {on name : String} {pool : Pool} (order : ByteOrder) (source : List UInt8)
      (offset : Nat) {length : Nat} : s.pool? on = some pool → 0 < length →
      Asks s (.pool (.request on (.copyRange order source offset length) name)) "length"
        (offset + length) source.length
  | read {on : String} {b : Buffer} {op : Buffer.Operation} : s.buffers.find? on = some b →
      op.Reads →
      Asks s (.buffer (.perform on op)) "reader_index" (b.readerIndex + Buffer.taken op)
        b.writerIndex
  | position {on : String} {region : Region} (position : Nat) : s.regions.find? on = some region →
      Asks s (.region (.setPosition on position)) "position" position region.length

/-- The step reports that a value exceeds a bound. -/
def Turn.OutOfRange (turn : Turn) (argument : String) (value bound : Nat) : Prop :=
  turn.outcome = .error (.failed (.refused (.indexOutOfRange argument value bound)))

/-- A machine word holds the position that is asked for. -/
def Command.InWord : Command → Prop
  | .region (.setPosition _ position) => position ≤ maxWord
  | _ => True

lemma outcome_ofReply_iff {σ α : Type} {reply : Reply σ α} {keep : σ → Session}
    {next : Session → α → Answer × Session} {e : Error} :
    (Turn.ofReply reply keep next).outcome = .error (.failed (.refused e)) ↔
      reply.outcome = .error (.refused e) := by
  unfold Turn.ofReply
  split
  case h_1 failure ho => simp [ho]
  case h_2 value ho => simp [ho]

lemma outcome_need_iff {α : Type} {s : Session} {found : Option α} {name : String}
    {next : α → Turn} {e : Error} :
    (s.need found name next).outcome = .error (.failed (.refused e)) ↔
      ∃ object, found = some object ∧
        (next object).outcome = .error (.failed (.refused e)) := by
  cases found <;> simp [need, Turn.missing]

section Steps
variable {s : Session} {argument : String} {value bound stop : Nat}

/-! Nothing that is made from settings is refused for an end. -/

lemma kind_of_ofToml {document : String} {e : Error} (h : Settings.ofToml document = .error e) :
    e.kind = .invalidArgument := by
  unfold Settings.ofToml at h
  split at h
  · cases h; rfl
  · split at h
    · cases h; rfl
    · unfold Settings.validate at h
      split at h
      · cases h; rfl
      · cases h

lemma kind_of_bind {α : Type} {document : String} {make : Settings → Except Error α} {e : Error}
    (hmake : ∀ settings, make settings = .error e → e.kind = .invalidArgument)
    (h : (Settings.ofToml document).bind make = .error e) : e.kind = .invalidArgument := by
  cases hread : Settings.ofToml document with
  | error e' =>
    rw [hread] at h
    cases h
    exact kind_of_ofToml hread
  | ok settings =>
    rw [hread] at h
    exact hmake settings h

lemma kind_of_pool {settings : Settings} {e : Error} (h : Pool.ofSettings settings = .error e) :
    e.kind = .invalidArgument := by
  rw [Pool.ofSettings_eq] at h
  split at h
  · cases h; rfl
  · cases h

lemma kind_of_registry_ofSettings {heap : Heap} {settings : Settings} {e : Error}
    (h : Registry.ofSettings heap settings = .error e) : e.kind = .invalidArgument := by
  rw [Registry.ofSettings_eq] at h
  split at h
  · cases h; rfl
  · cases h

lemma kind_of_registry {heap : Heap} {slabCapacity : Nat} {e : Error}
    (h : Registry.new heap slabCapacity = .error e) : e.kind = .invalidArgument := by
  rw [Registry.new_eq] at h
  exact kind_of_registry_ofSettings h

lemma not_outOfRange_keepPool {name : String} {made : Except Error Pool}
    (hmade : ∀ e, made = .error e → e.kind = .invalidArgument) :
    ¬(s.keepPool name made).OutOfRange argument value bound := by
  intro h
  cases made with
  | error e => cases h; cases hmade _ rfl
  | ok pool => cases h

lemma not_outOfRange_keepNew {name : String} {made : Except Error (Registry × Heap)}
    (hmade : ∀ e, made = .error e → e.kind = .invalidArgument) :
    ¬(RegistryCommand.keepNew s name made).OutOfRange argument value bound := by
  intro h
  cases made with
  | error e => cases h; cases hmade _ rfl
  | ok made =>
    obtain ⟨info, -, hturn⟩ := outcome_need_iff.mp h
    cases hturn

/-! Each kind of command. -/

lemma asks_pool {command : PoolCommand}
    (h : (s.step (.pool command)).OutOfRange argument value bound) :
    ∃ stop, Asks s (.pool command) argument stop bound ∧ bound < stop ∧
      value = min maxWord stop := by
  have hrefused : command.IsRefused s := (command.step_refusedIff s).refused_iff.mp ⟨_, h⟩
  cases command with
  | new | ofSettings => exact absurd h (not_outOfRange_keepPool fun e => kind_of_pool)
  | ofToml =>
    exact absurd h (not_outOfRange_keepPool fun e => kind_of_bind fun settings => kind_of_pool)
  | request on asked name =>
    obtain ⟨pool, hpool, hexceeds⟩ := hrefused
    obtain ⟨⟨handle, pool'⟩, hheld, hturn⟩ := outcome_need_iff.mp h
    obtain rfl : pool' = pool := by simpa [pool?, hheld] using hpool
    cases asked with
    | copyRange order source offset length =>
      have hpos : 0 < length := by
        simp only [Pool.Request.exceeds, decide_eq_true_eq] at hexceeds
        exact hexceeds.1
      have hreply := outcome_ofReply_iff.mp hturn
      obtain ⟨hlt, heq⟩ := (Pool.copyRange_eq_refused_iff hpos).mp hreply
      cases heq
      exact ⟨_, .range order source offset hpool hpos, hlt, rfl⟩
    | _ => cases hexceeds
  | _ => cases hrefused

lemma not_outOfRange_registry {command : RegistryCommand} :
    ¬(s.step (.registry command)).OutOfRange argument value bound := by
  intro h
  have hrefused : command.IsRefused s := (command.step_refusedIff s).refused_iff.mp ⟨_, h⟩
  cases command with
  | new => exact not_outOfRange_keepNew (fun e => kind_of_registry) h
  | ofSettings => exact not_outOfRange_keepNew (fun e => kind_of_registry_ofSettings) h
  | ofToml =>
    exact not_outOfRange_keepNew
      (fun e => kind_of_bind fun settings => kind_of_registry_ofSettings) h
  | resolve on order name =>
    obtain ⟨registry, hfind, rfl⟩ := hrefused
    obtain ⟨registry, hfind, hturn⟩ := outcome_need_iff.mp h
    cases hturn
  | _ => cases hrefused

lemma asks_region {command : RegionCommand} (hword : Command.InWord (.region command))
    (h : (s.step (.region command)).OutOfRange argument value bound) :
    ∃ stop, Asks s (.region command) argument stop bound ∧ bound < stop ∧
      value = min maxWord stop := by
  have hrefused : command.IsRefused s := (command.step_refusedIff s).refused_iff.mp ⟨_, h⟩
  cases command with
  | setPosition on position =>
    obtain ⟨region, hfind, hturn⟩ := outcome_need_iff.mp h
    obtain ⟨hlt, heq⟩ := Region.setPosition_eq_refused_iff.mp (outcome_ofReply_iff.mp hturn)
    cases heq
    exact ⟨_, .position _ hfind, hlt, (Nat.min_eq_right hword).symm⟩
  | reset on =>
    obtain ⟨region, hfind, hturn⟩ := outcome_need_iff.mp h
    have hreset := outcome_ofReply_iff.mp hturn
    unfold Region.reset at hreset
    split at hreset <;> cases hreset
  | _ => cases hrefused

lemma asks_buffer {command : BufferCommand}
    (h : (s.step (.buffer command)).OutOfRange argument value bound) :
    ∃ stop, Asks s (.buffer command) argument stop bound ∧ bound < stop ∧
      value = min maxWord stop := by
  have hrefused : command.IsRefused s := (command.step_refusedIff s).refused_iff.mp ⟨_, h⟩
  cases command with
  | perform on op =>
    obtain ⟨b, hfind, hturn⟩ := outcome_need_iff.mp h
    have hreply := outcome_ofReply_iff.mp hturn
    have hreads := Buffer.reads_of_perform hreply
    obtain ⟨hlt, heq⟩ := (Buffer.perform_eq_refused_iff hreads).mp hreply
    cases heq
    exact ⟨_, .read hfind hreads, hlt, rfl⟩
  | _ => cases hrefused

lemma not_outOfRange_arena {command : ArenaCommand} :
    ¬(s.step (.arena command)).OutOfRange argument value bound := by
  intro h
  have hrefused : command.IsRefused s := (command.step_refusedIff s).refused_iff.mp ⟨_, h⟩
  cases command with
  | new order slabCapacity name =>
    obtain rfl : slabCapacity = 0 := hrefused
    cases h
  | allocate on capacity name =>
    obtain ⟨arena, hfind, hcapacity⟩ := hrefused
    obtain ⟨arena', hfind', hturn⟩ := outcome_need_iff.mp h
    obtain rfl := Option.some.inj (hfind.symm.trans hfind')
    have hreply := outcome_ofReply_iff.mp hturn
    rw [Arena.allocate, if_pos hcapacity] at hreply
    cases hreply
  | _ => cases hrefused

/-- Only to those who ask for an end that is not there an end is reported. -/
lemma asks_of_outOfRange {command : Command} (hword : command.InWord)
    (h : (s.step command).OutOfRange argument value bound) :
    ∃ stop, Asks s command argument stop bound ∧ bound < stop ∧ value = min maxWord stop := by
  cases command with
  | pool command => exact asks_pool h
  | registry command => exact absurd h not_outOfRange_registry
  | region command => exact asks_region hword h
  | arena command => exact absurd h not_outOfRange_arena
  | slab command => exact ((command.step_refusedIff s).refused_iff.mp ⟨_, h⟩).elim
  | buffer command => exact asks_buffer h

/-- And it is reported to all of them. -/
lemma outOfRange_of_asks {command : Command} (hword : command.InWord)
    (h : Asks s command argument stop bound) (hlt : bound < stop) :
    (s.step command).OutOfRange argument (min maxWord stop) bound := by
  cases h with
  | @range on name pool order source offset length hpool hpos =>
    obtain ⟨held, hheld, rfl⟩ := Option.map_eq_some_iff.mp hpool
    refine outcome_need_iff.mpr ⟨held, hheld, outcome_ofReply_iff.mpr ?_⟩
    exact (Pool.copyRange_eq_refused_iff hpos).mpr ⟨hlt, rfl⟩
  | read hfind hreads =>
    have hreply := (Buffer.perform_eq_refused_iff hreads).mpr ⟨hlt, rfl⟩
    exact outcome_need_iff.mpr ⟨_, hfind, outcome_ofReply_iff.mpr hreply⟩
  | position position hfind =>
    rw [Nat.min_eq_right hword]
    have hreply := Region.setPosition_eq_refused_iff.mpr ⟨hlt, rfl⟩
    exact outcome_need_iff.mpr ⟨_, hfind, outcome_ofReply_iff.mpr hreply⟩

/-- No more is there than memory can hold, unless it is less than a word that is asked for. -/
lemma lt_value_of_asks {command : Command} (hholds : inMemory.Holds s)
    (hadmits : inMemory.Admits s command) (hword : command.InWord)
    (h : Asks s command argument stop bound) (hlt : bound < stop) : bound < min maxWord stop := by
  have hword_of_le (hle : bound ≤ maxAllocation) : bound < min maxWord stop :=
    Nat.lt_min.mpr ⟨hle.trans_lt (by decide), hlt⟩
  cases h with
  | range => exact hword_of_le hadmits
  | read hfind => exact hword_of_le (hholds.buffers.find? hfind)
  | position position hfind => rwa [Nat.min_eq_right hword]

end Steps

/-- In every session that can be reached a step reports a value beyond a bound exactly if it asks
for an end beyond what is there. The bound is what is there, and the value the end, or the greatest
word in the place of a greater end. Either way the value exceeds the bound, as the message says. -/
theorem outOfRange_truthful {s : Session} (hreached : s.Reached) {command : Command}
    (hadmits : inMemory.Admits s command) (hword : command.InWord) (argument : String)
    (value bound : Nat) :
    ((s.step command).OutOfRange argument value bound ↔
      ∃ stop, Asks s command argument stop bound ∧ bound < stop ∧ value = min maxWord stop) ∧
    ((s.step command).OutOfRange argument value bound →
      bound < value ∧ (Error.indexOutOfRange argument value bound).message =
        "index out of range for `" ++ argument ++ "`: " ++ toString value ++ " exceeds bound " ++
          toString bound) := by
  refine ⟨⟨asks_of_outOfRange hword, ?_⟩, fun h => ⟨?_, rfl⟩⟩
  · rintro ⟨stop, hasks, hlt, rfl⟩
    exact outOfRange_of_asks hword hasks hlt
  · obtain ⟨stop, hasks, hlt, rfl⟩ := asks_of_outOfRange hword h
    exact lt_value_of_asks hreached.holds hadmits hword hasks hlt

/-- Two bytes in a buffer, the first of which has been read. -/
def halfRead : Session :=
  ((({} : Session).step (.buffer (.wrap .big (.data [1, 2]) "b"))).session.step
    (.buffer (.perform "b" (.skip 1)))).session

/-- The end of what is skipped behind the first byte is no word any more. -/
theorem outOfRange_truthful_of_two :
    halfRead.Reached ∧ inMemory.Admits halfRead (.buffer (.perform "b" (.skip maxWord))) ∧
      (halfRead.step (.buffer (.perform "b" (.skip maxWord)))).OutOfRange "reader_index" maxWord 2 ∧
      2 < maxWord := by
  have hwrapped : inMemory.Admits {} (.buffer (.wrap .big (.data [1, 2]) "b")) :=
    show 2 ≤ maxAllocation by decide
  have hskip : inMemory.Admits
      (({} : Session).step (.buffer (.wrap .big (.data [1, 2]) "b"))).session
      (.buffer (.perform "b" (.skip 1))) := by
    rintro b ⟨⟩
    exact show 2 ≤ maxAllocation by decide
  have hreached : halfRead.Reached := .step (.step .start hwrapped) hskip
  have hadmits : inMemory.Admits halfRead (.buffer (.perform "b" (.skip maxWord))) := by
    rintro b ⟨⟩
    exact show 2 ≤ maxAllocation by decide
  obtain ⟨hiff, htrue⟩ := outOfRange_truthful hreached hadmits trivial "reader_index" maxWord 2
  have hfind : halfRead.buffers.find? "b" =
      some { Buffer.wrap .big [1, 2] with readerIndex := 1, readable := [2] } := rfl
  have hasks : Asks halfRead (.buffer (.perform "b" (.skip maxWord))) "reader_index"
      (1 + maxWord) 2 := .read hfind trivial
  have hreport := hiff.mpr ⟨1 + maxWord, hasks, by decide, by decide⟩
  exact ⟨hreached, hadmits, hreport, (htrue hreport).1⟩

end Session
end BytePool
