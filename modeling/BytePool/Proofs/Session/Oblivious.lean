import BytePool.Proofs.Session.VeiledStep

/-!
# Oblivious sessions

Two runs of the same commands that differ in bytes and numbers only cannot be told apart by anything
but bytes and numbers: every step succeeds or fails in the same way, sends the same events and
leaves the same counts and indices.
-/
namespace BytePool

/-! ### Objects that differ in their bytes only -/

structure Buffer.Alike (b c : Buffer) : Prop where
  order_eq : b.order = c.order
  origin_eq : b.origin = c.origin
  isReadOnly_eq : b.isReadOnly = c.isReadOnly
  readerIndex_eq : b.readerIndex = c.readerIndex
  writerIndex_eq : b.writerIndex = c.writerIndex
  readableBytes_eq : b.readableBytes = c.readableBytes
  /-- Also whether the buffer has grown. -/
  capacity_eq : b.capacity = c.capacity
  text_eq : b.text? = c.text?

structure Region.Alike (r q : Region) : Prop where
  storage_eq : r.storage = q.storage
  order_eq : r.order = q.order
  length_eq : r.length = q.length
  position_eq : r.position = q.position
  remaining_eq : r.remaining = q.remaining
  mark_eq : r.mark = q.mark

structure Chunk.Alike (c d : Chunk) : Prop where
  offset_eq : c.offset = d.offset
  length_eq : c.bytes.length = d.bytes.length
  capacity_eq : c.capacity = d.capacity

lemma Buffer.alike_of_veil_eq {b c : Buffer} (h : b.veil = c.veil) : b.Alike c := by
  obtain ⟨horder, horigin, hreadOnly, hreader, hreadable, hcapacity⟩ := mk.inj h
  have hwriter : b.writerIndex = c.writerIndex := by
    rw [← b.writerIndex_veil, h, c.writerIndex_veil]
  have htext : b.text? = c.text? := by rw [← b.text?_veil, h, c.text?_veil]
  exact ⟨horder, horigin, hreadOnly, hreader, hwriter, length_eq_of_veil_eq hreadable, hcapacity,
    htext⟩

lemma Region.alike_of_veil_eq {r q : Region} (h : r.veil = q.veil) : r.Alike q := by
  obtain ⟨hstorage, horder, hbytes, hposition, hmark⟩ := mk.inj h
  have hremaining : r.remaining = q.remaining := by
    rw [← r.remaining_veil, h, q.remaining_veil]
  exact ⟨hstorage, horder, length_eq_of_veil_eq hbytes, hposition, hremaining, hmark⟩

lemma Chunk.alike_of_veil_eq {c d : Chunk} (h : c.veil = d.veil) : c.Alike d := by
  obtain ⟨hblock, hoffset⟩ := mk.inj h
  obtain ⟨hbytes, hcapacity⟩ := Block.mk.inj hblock
  exact ⟨hoffset, length_eq_of_veil_eq hbytes, hcapacity⟩

namespace Session

/-- Answers that differ in bytes and numbers only. -/
inductive Answer.Alike : Answer → Answer → Prop
  | same (a : Answer) : Alike a a
  | number (m n : Int) : Alike (.number m) (.number n)
  | bytes {x y : List UInt8} (h : x.length = y.length) : Alike (.bytes x) (.bytes y)
  | region {r q : Region} (h : r.Alike q) : Alike (.region r) (.region q)
  | chunk {c d : Chunk} (h : c.Alike d) : Alike (.chunk c) (.chunk d)
  | buffer {b c : Buffer} (h : b.Alike c) : Alike (.buffer b) (.buffer c)

lemma Answer.alike_of_veil_eq {a a' : Answer} (h : a.veil = a'.veil) : a.Alike a' := by
  cases a <;> cases a' <;> simp only [veil, reduceCtorEq] at h
  case number.number m n => exact .number m n
  case bytes.bytes x y => exact .bytes (length_eq_of_veil_eq (bytes.inj h))
  case region.region r q => exact .region (Region.alike_of_veil_eq (region.inj h))
  case chunk.chunk c d => exact .chunk (Chunk.alike_of_veil_eq (chunk.inj h))
  case buffer.buffer b c => exact .buffer (Buffer.alike_of_veil_eq (buffer.inj h))
  case nothing.nothing => exact .same _
  all_goals
    rw [h]
    exact .same _

/-- Sessions that differ in bytes only: pools, registries, arenas and slabs are the same, with all
that they count, and under each name there are objects that are alike or none. -/
structure Alike (s t : Session) : Prop where
  heap_eq : s.heap = t.heap
  pools_eq : s.pools = t.pools
  registries_eq : s.registries = t.registries
  arenas_eq : s.arenas = t.arenas
  slabs_eq : s.slabs = t.slabs
  buffers : ∀ name, Option.Rel Buffer.Alike (s.buffers.find? name) (t.buffers.find? name)
  regions : ∀ name, Option.Rel Region.Alike (s.regions.find? name) (t.regions.find? name)
  chunks : ∀ name, Option.Rel Chunk.Alike (s.chunks.find? name) (t.chunks.find? name)
  frozen : ∀ name, Option.Rel (fun x y => x.length = y.length)
    (s.frozen.find? name) (t.frozen.find? name)

lemma Names.rel_find? {α β : Type} {f : α → β} {R : α → α → Prop}
    (hR : ∀ x y, f x = f y → R x y) {names names' : Names α} (h : names.map f = names'.map f)
    (name : String) : Option.Rel R (names.find? name) (names'.find? name) := by
  have hfind := congrArg (find? · name) h
  simp only [find?_map] at hfind
  cases hn : names.find? name <;> cases hn' : names'.find? name <;>
    simp only [hn, hn', Option.map, reduceCtorEq, Option.some.injEq] at hfind
  · exact .none
  · exact .some (hR _ _ hfind)

lemma alike_of_veil_eq {s t : Session} (h : s.veil = t.veil) : s.Alike t := by
  obtain ⟨hheap, hpools, hregistries, hbuffers, hregions, hfrozen, harenas, hslabs, hchunks⟩ :=
    mk.inj h
  refine ⟨hheap, hpools, hregistries, harenas, hslabs, ?_, ?_, ?_, ?_⟩
  · exact Names.rel_find? (fun _ _ => Buffer.alike_of_veil_eq) hbuffers
  · exact Names.rel_find? (fun _ _ => Region.alike_of_veil_eq) hregions
  · exact Names.rel_find? (fun _ _ => Chunk.alike_of_veil_eq) hchunks
  · exact Names.rel_find? (fun _ _ => length_eq_of_veil_eq) hfrozen

/-- What two runs show of a step when all that differs is bytes and numbers. Texts differ only where
the text of a region was asked for. -/
structure Turn.Alike (command : Command) (turn turn' : Turn) : Prop where
  events_eq : turn.events = turn'.events
  error_iff : ∀ refusal, turn.outcome = .error refusal ↔ turn'.outcome = .error refusal
  answers : ∀ a a', turn.outcome = .ok a → turn'.outcome = .ok a' →
    a.Alike a' ∨ ∃ on x y, command = .region (.text on) ∧ a = .text x ∧ a' = .text y
  session : turn.session.Alike turn'.session

lemma Turn.alike_of_veil_eq {turn turn' : Turn} (h : turn.veil = turn'.veil) (command : Command) :
    turn.Alike command turn' := by
  obtain ⟨houtcome, hsession, hevents⟩ := mk.inj h
  refine ⟨hevents, ?_, ?_, Session.alike_of_veil_eq hsession⟩
  · intro refusal
    cases ho : turn.outcome <;> cases ho' : turn'.outcome <;> simp_all [Except.map]
  · intro a a' ha ha'
    rw [ha, ha'] at houtcome
    exact .inl (Answer.alike_of_veil_eq (Except.ok.inj houtcome))

/-! ### One step -/

lemma veil_eq_text {command : Command} {on : String}
    (h : command.veil = .region (.text on)) : command = .region (.text on) := by
  cases command with
  | region command => cases command <;> simp_all [Command.veil, RegionCommand.veil]
  | _ => simp [Command.veil] at h

/-- The text of a region is shown for the same regions, whatever it is. -/
lemma text_alike {s t : Session} (hs : s.veil = t.veil) (on : String) :
    (s.step (.region (.text on))).Alike (.region (.text on)) (t.step (.region (.text on))) ∧
      (s.step (.region (.text on))).session.veil = (t.step (.region (.text on))).session.veil := by
  have hstep (s : Session) : s.step (.region (.text on)) =
      s.ask (s.regions.find? on) on fun region => .text region.text := rfl
  have hfind := congrArg (fun s => s.regions.find? on) hs
  simp only [← find?_regions_veil] at hfind
  rw [hstep, hstep]
  cases hr : s.regions.find? on <;> cases hq : t.regions.find? on <;>
    simp only [hr, hq, Option.map, reduceCtorEq] at hfind
  case none.none =>
    have hturn : (Turn.missing on s).veil = (Turn.missing on t).veil :=
      congrArg (Turn.missing on) hs
    exact ⟨Turn.alike_of_veil_eq hturn _, hs⟩
  case some.some r q =>
    refine ⟨⟨rfl, fun refusal => ?_, ?_, alike_of_veil_eq hs⟩, hs⟩
    · exact iff_of_false nofun nofun
    · rintro _ _ ⟨⟩ ⟨⟩
      exact .inr ⟨on, r.text, q.text, rfl, rfl, rfl⟩

theorem step_oblivious {s t : Session} (hs : s.veil = t.veil) {command command' : Command}
    (hc : command.veil = command'.veil) :
    (s.step command).Alike command (t.step command') ∧
      (s.step command).session.veil = (t.step command').session.veil := by
  by_cases htext : ∃ on, command = .region (.text on)
  · obtain ⟨on, rfl⟩ := htext
    obtain rfl := veil_eq_text hc.symm
    exact text_alike hs on
  · have hturn : (s.step command).veil = (t.step command').veil := by
      rw [s.step_veil command fun on h => htext ⟨on, h⟩, hs, hc, t.step_veil command']
      rintro on rfl
      exact htext ⟨on, veil_eq_text hc⟩
    exact ⟨Turn.alike_of_veil_eq hturn command, (Turn.mk.inj hturn).2.1⟩

/-! ### Runs -/

/-- Two runs in which all that differs is bytes and numbers show the same in every step, but for
bytes and numbers. -/
theorem run_oblivious {s t : Session} (hs : s.veil = t.veil) {commands commands' : List Command}
    (hc : commands.map Command.veil = commands'.map Command.veil) :
    (s.run commands).length = (t.run commands').length ∧
      ∀ (i : Nat) (command : Command) (turn turn' : Turn), commands[i]? = some command →
        (s.run commands)[i]? = some turn → (t.run commands')[i]? = some turn' →
          turn.Alike command turn' := by
  constructor
  · simpa using congrArg List.length hc
  induction commands generalizing s t commands' with
  | nil => simp
  | cons first later ih =>
    obtain ⟨first', later', rfl, hfirst, hlater⟩ := List.map_eq_cons_iff.mp hc.symm
    obtain ⟨halike, hsession⟩ := step_oblivious hs hfirst.symm
    intro i command turn turn' hcommand hturn hturn'
    cases i with
    | zero =>
      obtain rfl := Option.some.inj hcommand
      obtain rfl := Option.some.inj hturn
      obtain rfl := Option.some.inj hturn'
      exact halike
    | succ i => exact ih hsession hlater.symm i command turn turn' hcommand hturn hturn'

/-- Other bytes copied and another number put: another number is got, from a buffer that has grown
by the put in both runs. -/
theorem run_oblivious_of_four :
    let commands (bytes : List UInt8) (value : Int) : List Command :=
      [.pool (.new .big 4 "pool"), .pool (.request "pool" (.copyBytes bytes) "b"),
        .buffer (.perform "b" (.putNumber .u16 value)), .buffer (.perform "b" (.getNumber .u32))]
    (commands [1, 2, 3] 4).map Command.veil = (commands [6, 7, 8] 513).map Command.veil ∧
      ∃ turn turn' : Turn, (run {} (commands [1, 2, 3] 4))[3]? = some turn ∧
        (run {} (commands [6, 7, 8] 513))[3]? = some turn' ∧
        turn.Alike (.buffer (.perform "b" (.getNumber .u32))) turn' ∧
        turn.outcome = .ok (.number 0x01020300) ∧ turn'.outcome = .ok (.number 0x06070802) := by
  intro commands
  have hc : (commands [1, 2, 3] 4).map Command.veil = (commands [6, 7, 8] 513).map Command.veil :=
    rfl
  refine ⟨hc, _, _, rfl, rfl, ?_, rfl, rfl⟩
  exact (run_oblivious (s := {}) (t := {}) rfl hc).2 3 _ _ _ rfl rfl rfl

end Session
end BytePool
