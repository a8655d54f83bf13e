import BytePool.Proofs.Checked.Pool
import BytePool.Proofs.Session.Extension

/-!
# Sessions with checks

A session whose objects are kept as they are stored, and whose commands are carried out check by
check. Commands that work on no memory make new pools and change names; all that they show is
computed with checks.
-/
namespace BytePool

/-! ### Names -/

lemma mapM_eq_ok {α β ε : Type} {f : α → Except ε β} {g : α → β} {list : List α}
    (h : ∀ a ∈ list, f a = .ok (g a)) : list.mapM f = .ok (list.map g) := by
  induction list with
  | nil => rfl
  | cons a list ih =>
    obtain ⟨ha, hlist⟩ := List.forall_mem_cons.mp h
    rw [List.mapM_cons, ha, ih hlist]
    rfl

namespace Session.Names
variable {α β : Type}

/-- Makes something of every value, as far as no check fails. -/
def mapM (f : α → Except Fault β) (names : Names α) : Except Fault (Names β) :=
  Except.map Names.mk (names.entries.mapM fun entry => Except.map (entry.1, ·) (f entry.2))

lemma mapM_eq {P : α → Prop} {f : α → Except Fault β} {g : α → β}
    (hf : ∀ value, P value → f value = .ok (g value)) {names : Names α} (h : names.All P) :
    names.mapM f = .ok (names.map g) := by
  rw [mapM, mapM_eq_ok fun entry hentry => by rw [hf entry.2 (h entry hentry)]; rfl]
  rfl

end Session.Names

namespace Checked
open BytePool.Session (Names)

/-! ### What is shown -/

/-- A buffer shows its readable bytes and its two counts. -/
def Buffer.shown (b : Buffer) : Except Fault BytePool.Buffer := do
  let readable ← b.asSlice
  let _ ← b.readableBytes
  let _ ← b.writableBytes
  return {
    order := b.order
    origin := b.origin
    isReadOnly := b.isShared
    readerIndex := b.readerIndex
    readable
    capacity := b.capacity }

lemma Buffer.Sound.shown_eq {b : Buffer} (h : b.Sound) : b.shown = .ok b.view := by
  rw [shown, h.asSlice_eq, h.readableBytes_eq, h.writableBytes_eq]
  rfl

/-- A region shows its readable bytes and how many they are. -/
def Region.shown (region : BytePool.Region) : Except Fault BytePool.Region := do
  let _ ← region.checkedRemaining
  let _ ← region.checkedReadable
  return region

lemma Region.shown_eq {region : BytePool.Region} (h : region.Sound) :
    Region.shown region = .ok region := by
  rw [shown, h.checkedRemaining_eq, h.checkedReadable_eq]
  rfl

/-! ### Sessions -/

structure Session where
  pools : List Pool := []
  handles : Names Handle := {}
  registries : Names Registry := {}
  buffers : Names Buffer := {}
  regions : Names BytePool.Region := {}
  frozen : Names (List UInt8) := {}
  arenas : Names Arena := {}
  slabs : Names Slab := {}
  chunks : Names Chunk := {}

structure Turn where
  outcome : Except BytePool.Session.Refusal BytePool.Session.Answer
  session : Session
  events : List Event := []

namespace Session
open BytePool.Session (Answer Command Source)

def shown (s : Session) : Except Fault BytePool.Session := do
  return {
    heap := ⟨← s.pools.mapM Pool.shown⟩
    pools := s.handles
    registries := s.registries
    buffers := ← s.buffers.mapM Buffer.shown
    regions := ← s.regions.mapM Region.shown
    frozen := s.frozen
    arenas := ← s.arenas.mapM Arena.shown
    slabs := ← s.slabs.mapM Slab.shown
    chunks := s.chunks }

def handled? (s : Session) (name : String) : Option (Handle × Pool) := do
  let handle ← s.handles.find? name
  return (handle, ← s.pools[handle]?)

def putPool (s : Session) (handle : Handle) (pool : Pool) : Session :=
  { s with pools := s.pools.set handle pool }

def putBuffer (s : Session) (name : String) (b : Buffer) : Session :=
  { s with buffers := s.buffers.insert name b }

def putRegion (s : Session) (name : String) (region : BytePool.Region) : Session :=
  { s with regions := s.regions.insert name region }

/-! ### Steps -/

def answer (a : Answer) (s : Session) : Except Fault Turn := .ok ⟨.ok a, s, []⟩

def need {α : Type} (s : Session) (found : Option α) (name : String)
    (next : α → Except Fault Turn) : Except Fault Turn :=
  match found with
  | none => .ok ⟨.error (.noSuchObject name), s, []⟩
  | some object => next object

def ofAttempt {σ α : Type} (attempt : Attempt σ α) (keep : σ → Session)
    (next : Session → α → Except Fault (Answer × Session)) : Except Fault Turn :=
  Except.bind attempt fun reply =>
    match reply.outcome with
    | .error failure => .ok ⟨.error (.failed failure), keep reply.state, reply.events⟩
    | .ok value =>
      Except.map (fun shown => ⟨.ok shown.1, shown.2, reply.events⟩) (next (keep reply.state) value)

def use (s : Session) (source : Source) (next : Session → List UInt8 → Except Fault Turn) :
    Except Fault Turn :=
  match source with
  | .data bytes => next s bytes
  | .chunk name =>
    s.need (s.chunks.find? name) name fun chunk =>
      next { s with chunks := s.chunks.erase name } chunk.bytes
  | .frozen name => s.need (s.frozen.find? name) name (next s)

/-- Stores a buffer and shows it. -/
def keepBuffer (name : String) (s : Session) (b : Buffer) : Except Fault (Answer × Session) :=
  Except.map (fun shown => (.buffer shown, s.putBuffer name b)) b.shown

/-- Puts the pools that are new behind the others, and takes over the names. -/
def extend (s : Session) (t : BytePool.Session) : Session :=
  { s with
    pools := s.pools ++ (t.heap.pools.drop s.pools.length).map Pool.start
    handles := t.pools
    registries := t.registries }

/-- A command that works on no memory. -/
def plain (s : Session) (command : Command) : Except Fault Turn :=
  Except.map (fun shown =>
    let turn := BytePool.Session.step shown command
    ⟨turn.outcome, s.extend turn.session, turn.events⟩) s.shown

def step (s : Session) : Command → Except Fault Turn
  | .pool (.request on asked name) =>
    s.need (s.handled? on) on fun held =>
      ofAttempt (held.2.serve asked) (s.putPool held.1) (keepBuffer name)
  | .pool (.adoptRegion on region name) =>
    s.need (s.handled? on) on fun held =>
      s.need (s.regions.find? region) region fun given =>
        ofAttempt (held.2.adoptRegion given)
          (fun pool => { s.putPool held.1 pool with regions := s.regions.erase region })
          (keepBuffer name)
  | .pool (.copyRegion on region name) =>
    s.need (s.handled? on) on fun held =>
      s.need (s.regions.find? region) region fun given =>
        ofAttempt (held.2.copyRegion given)
          (fun state => (s.putPool held.1 state.1).putRegion region state.2) (keepBuffer name)
  | .region (.new storage order source name) =>
    s.use source fun s bytes =>
      Except.bind (Region.shown { storage, order, bytes }) fun region =>
        answer (.region region) (s.putRegion name region)
  | .region (.setPosition on position) =>
    s.need (s.regions.find? on) on fun region =>
      ofAttempt (.ok (region.setPosition position)) (s.putRegion on) fun s _ => .ok (.nothing, s)
  | .region (.setMark on) =>
    s.need (s.regions.find? on) on fun region => answer .nothing (s.putRegion on region.setMark)
  | .region (.reset on) =>
    s.need (s.regions.find? on) on fun region =>
      ofAttempt (.ok region.reset) (s.putRegion on) fun s _ => .ok (.nothing, s)
  | .buffer (.empty name) =>
    Except.bind Buffer.empty.shown fun b => answer (.buffer b) (s.putBuffer name .empty)
  | .buffer (.wrap order source name) =>
    s.use source fun s bytes =>
      Except.bind (Buffer.wrapFrom order bytes 0 0) fun b =>
        Except.bind b.shown fun shown => answer (.buffer shown) (s.putBuffer name b)
  | .buffer (.perform on operation) =>
    s.need (s.buffers.find? on) on fun b =>
      ofAttempt (b.perform operation) (s.putBuffer on) fun s result =>
        .ok (BytePool.Session.BufferCommand.answer result, s)
  | .buffer (.freeze on name) =>
    s.need (s.buffers.find? on) on fun b =>
      Except.bind b.freeze fun bytes =>
        answer (.bytes bytes)
          { s with buffers := s.buffers.erase on, frozen := s.frozen.insert name bytes }
  | .buffer (.drop on) =>
    answer (.truth (s.buffers.contains on)) { s with buffers := s.buffers.erase on }
  | .arena (.new order slabCapacity name) =>
    match BytePool.Arena.new order slabCapacity with
    | .error e => .ok ⟨.error (.failed (.refused e)), s, []⟩
    | .ok _ =>
      answer (.arena order slabCapacity)
        { s with arenas := s.arenas.insert name { order, slabCapacity } }
  | .arena (.allocate on capacity name) =>
    s.need (s.arenas.find? on) on fun arena =>
      ofAttempt (arena.allocate capacity)
        (fun arena => { s with arenas := s.arenas.insert on arena }) (keepBuffer name)
  | .arena (.drop on) =>
    answer (.truth (s.arenas.contains on)) { s with arenas := s.arenas.erase on }
  | .slab (.allocate id capacity name) =>
    match Slab.allocate id capacity with
    | .error failure => .ok ⟨.error (.failed failure), s, []⟩
    | .ok slab =>
      Except.bind slab.shown fun shown =>
        answer (.slab shown) { s with slabs := s.slabs.insert name slab }
  | .slab (.carve on length name) =>
    s.need (s.slabs.find? on) on fun slab =>
      ofAttempt (slab.carve? length) (fun slab => { s with slabs := s.slabs.insert on slab })
        fun s found =>
          match found with
          | none => .ok (.nothing, s)
          | some chunk => .ok (.chunk chunk, { s with chunks := s.chunks.insert name chunk })
  | .slab (.drop on) =>
    answer (.truth (s.slabs.contains on)) { s with slabs := s.slabs.erase on }
  | command => s.plain command

def run (s : Session) : List Command → Except Fault (List Turn)
  | [] => .ok []
  | command :: commands => do
    let turn ← s.step command
    let turns ← turn.session.run commands
    return turn :: turns

/-! ### What a stored session stands for -/

/-- All that is stored is sound, and the pools of the registries are there. -/
structure Sound (s : Session) : Prop where
  pools : ∀ pool ∈ s.pools, pool.Sound
  registries : s.registries.All (·.HoldsBelow s.pools.length)
  buffers : s.buffers.All Buffer.Sound
  regions : s.regions.All Region.Sound
  frozen : s.frozen.All (·.length ≤ maxAllocation)
  arenas : s.arenas.All Arena.Sound
  slabs : s.slabs.All Slab.Sound
  chunks : s.chunks.All (·.bytes.length ≤ maxAllocation)

def view (s : Session) : BytePool.Session where
  heap := ⟨s.pools.map Pool.view⟩
  pools := s.handles
  registries := s.registries
  buffers := s.buffers.map Buffer.view
  regions := s.regions
  frozen := s.frozen
  arenas := s.arenas.map Arena.view
  slabs := s.slabs.map Slab.view
  chunks := s.chunks

end Session

def Turn.view (turn : Turn) : BytePool.Session.Turn :=
  ⟨turn.outcome, turn.session.view, turn.events⟩

end Checked
end BytePool
