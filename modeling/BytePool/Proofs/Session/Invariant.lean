import BytePool.Proofs.Pool.Reachable
import BytePool.Session.Command

/-!
# Invariants of sessions

What is kept by everything that makes or changes one object holds of all objects of a session, after
every step and so along every run.
-/
namespace BytePool.Session

/-- A property of each kind of object that has bytes. It is kept by whatever makes or changes such
an object, as long as requests and operations are of the kind that keeps it. -/
structure Invariant where
  buffer : Buffer → Prop
  region : Region → Prop
  bytes : List UInt8 → Prop
  arena : Arena → Prop
  slab : Slab → Prop
  request : Pool.Request → Prop
  operation : Buffer → Buffer.Operation → Prop
  buffer_empty : buffer .empty
  buffer_wrap {content : List UInt8} (order : ByteOrder) : bytes content →
    buffer (.wrap order content)
  buffer_perform {b : Buffer} {op : Buffer.Operation} : buffer b → operation b op →
    buffer (b.perform op).state
  buffer_serve {asked : Pool.Request} {b : Buffer} (pool : Pool) : request asked →
    (pool.serve asked).outcome = .ok b → buffer b
  buffer_allocate {a : Arena} {capacity : Nat} {b : Buffer} : arena a →
    (a.allocate capacity).outcome = .ok b → buffer b
  request_region {r : Region} : region r → request (.adoptRegion r) ∧ request (.copyRegion r)
  region_new {content : List UInt8} (storage : Region.Storage) (order : ByteOrder) :
    bytes content → region { storage, order, bytes := content }
  region_move {r : Region} (m : Region.Move) : region r → region (r.move m)
  region_copy {r : Region} (pool : Pool) : region r → region (pool.copyRegion r).state.2
  bytes_freeze {b : Buffer} : buffer b → bytes b.freeze
  arena_new (order : ByteOrder) (slabCapacity : Nat) : arena { order, slabCapacity }
  arena_allocate {a : Arena} (capacity : Nat) : arena a → arena (a.allocate capacity).state
  slab_allocate {id capacity : Nat} {sl : Slab} : Slab.allocate id capacity = .ok sl → slab sl
  slab_carve {sl : Slab} (length : Nat) : slab sl → slab (sl.carve? length).state
  bytes_carve {sl : Slab} {length : Nat} {chunk : Chunk} : slab sl →
    (sl.carve? length).outcome = .ok (some chunk) → bytes chunk.bytes

namespace Invariant

/-- All objects of the session have the property. -/
structure Holds (I : Invariant) (s : Session) : Prop where
  buffers : s.buffers.All I.buffer
  regions : s.regions.All I.region
  frozen : s.frozen.All I.bytes
  arenas : s.arenas.All I.arena
  slabs : s.slabs.All I.slab
  chunks : s.chunks.All fun chunk => I.bytes chunk.bytes

def AdmitsSource (I : Invariant) : Source → Prop
  | .data content => I.bytes content
  | .chunk _ | .frozen _ => True

/-- What the command brings along has the property, and what it asks for keeps it. -/
def Admits (I : Invariant) (s : Session) : Command → Prop
  | .pool (.request _ asked _) => I.request asked
  | .region (.new _ _ source _) | .buffer (.wrap _ source _) => I.AdmitsSource source
  | .buffer (.perform on op) => ∀ b, s.buffers.find? on = some b → I.operation b op
  | _ => True

variable {I : Invariant} {s t : Session}

lemma holds_empty (I : Invariant) : I.Holds {} where
  buffers := nofun
  regions := nofun
  frozen := nofun
  arenas := nofun
  slabs := nofun
  chunks := nofun

/-! ### Parts of steps -/

namespace Holds

/-- Pools and registries have no part in the property. -/
lemma shared (h : I.Holds s) (heap : Heap) (pools : Names Handle) (registries : Names Registry) :
    I.Holds { s with heap, pools, registries } :=
  { h with }

lemma putBuffer (h : I.Holds s) (name : String) {b : Buffer} (hb : I.buffer b) :
    I.Holds (s.putBuffer name b) :=
  { h with buffers := h.buffers.insert name hb }

lemma putRegion (h : I.Holds s) (name : String) {r : Region} (hr : I.region r) :
    I.Holds (RegionCommand.put s name r) :=
  { h with regions := h.regions.insert name hr }

lemma need {α : Type} (h : I.Holds s) {found : Option α} {name : String} {next : α → Turn}
    (hnext : ∀ object, found = some object → I.Holds (next object).session) :
    I.Holds (s.need found name next).session := by
  cases found with
  | none => exact h
  | some object => exact hnext object rfl

lemma ask {α : Type} (h : I.Holds s) (found : Option α) (name : String) (a : α → Answer) :
    I.Holds (s.ask found name a).session :=
  h.need fun _ _ => h

lemma use (h : I.Holds s) {source : Source} (hsource : I.AdmitsSource source)
    {next : Session → List UInt8 → Turn}
    (hnext : ∀ t content, I.Holds t → I.bytes content → I.Holds (next t content).session) :
    I.Holds (source.use s next).session := by
  cases source with
  | data content => exact hnext s content h hsource
  | chunk name =>
    refine h.need fun chunk hfind => ?_
    exact hnext _ _ { h with chunks := h.chunks.erase name } (h.chunks.find? hfind)
  | frozen name => exact h.need fun content hfind => hnext s content h (h.frozen.find? hfind)

lemma ofReply {σ α : Type} {reply : Reply σ α} {keep : σ → Session}
    {next : Session → α → Answer × Session} (hkeep : I.Holds (keep reply.state))
    (hnext : ∀ value, reply.outcome = .ok value → I.Holds (next (keep reply.state) value).2) :
    I.Holds (Turn.ofReply reply keep next).session := by
  unfold Turn.ofReply
  split
  case h_1 => exact hkeep
  case h_2 value hok => exact hnext value hok

lemma keepPool (h : I.Holds s) (name : String) (made : Except Error Pool) :
    I.Holds (s.keepPool name made).session := by
  cases made with
  | error e => exact h
  | ok pool => exact h.shared ..

lemma keep (h : I.Holds s) (name : String) (registry : Registry) :
    I.Holds (RegistryCommand.keep s name registry).session :=
  (h.shared ..).ask _ _ _

lemma keepNew (h : I.Holds s) (name : String) (made : Except Error (Registry × Heap)) :
    I.Holds (RegistryCommand.keepNew s name made).session := by
  cases made with
  | error e => exact h
  | ok made => exact (h.shared made.2 s.pools s.registries).keep name made.1

lemma hold (h : I.Holds s) (name : String) (handle : Handle) :
    I.Holds (RegistryCommand.hold s name handle).session :=
  (h.shared ..).ask _ _ _

end Holds

/-! ### Steps -/

section Steps
variable (h : I.Holds s)
include h

lemma holds_pool {command : PoolCommand} (hadmits : I.Admits s (.pool command)) :
    I.Holds (command.step s).session := by
  cases command with
  | new | standard | ofOrder | ofSettings | ofToml => exact h.keepPool ..
  | info | stats | snapshot | text | statsText => exact h.ask ..
  | same on other => exact h.need fun _ _ => h.ask ..
  | drop on => exact h.shared ..
  | request on asked name =>
    refine h.need fun (handle, pool) _ => ?_
    have hkept := h.shared (s.heap.set handle (pool.serve asked).state) s.pools s.registries
    exact .ofReply hkept fun b hok => hkept.putBuffer name (I.buffer_serve pool hadmits hok)
  | adoptRegion on region name =>
    refine h.need fun (handle, pool) _ => h.need fun given hgiven => ?_
    have hrequest := (I.request_region (h.regions.find? hgiven)).1
    have hkept : I.Holds { s with regions := s.regions.erase region } :=
      { h with regions := h.regions.erase region }
    refine .ofReply (hkept.shared ..) fun b hok => ?_
    exact (hkept.shared ..).putBuffer name (I.buffer_serve pool hrequest hok)
  | copyRegion on region name =>
    refine h.need fun (handle, pool) _ => h.need fun given hgiven => ?_
    have hregion := h.regions.find? hgiven
    have hkept : I.Holds
        { s with regions := s.regions.insert region (pool.copyRegion given).state.2 } :=
      { h with regions := h.regions.insert region (I.region_copy pool hregion) }
    refine .ofReply (hkept.shared ..) fun b hok => ?_
    exact (hkept.shared ..).putBuffer name
      (I.buffer_serve pool (I.request_region hregion).2 hok)

lemma holds_registry (command : RegistryCommand) : I.Holds (command.step s).session := by
  cases command with
  | new | standard | ofSettings | ofToml => exact h.keepNew ..
  | clone on name => exact h.need fun registry _ => h.keep name registry
  | info | text => exact h.ask ..
  | drop on => exact h.shared ..
  | get | preferred => exact h.need fun registry _ => h.hold ..
  | resolve on order name =>
    refine h.need fun registry _ => ?_
    cases order with
    | none => exact h
    | some order => exact h.hold ..

lemma holds_region {command : RegionCommand} (hadmits : I.Admits s (.region command)) :
    I.Holds (command.step s).session := by
  cases command with
  | new storage order source name =>
    exact h.use hadmits fun t content ht hcontent =>
      ht.putRegion name (I.region_new storage order hcontent)
  | info | readable | text => exact h.ask ..
  | setPosition on position =>
    refine h.need fun r hr => ?_
    have hkept := h.putRegion on (I.region_move (.setPosition position) (h.regions.find? hr))
    exact .ofReply hkept fun _ _ => hkept
  | setMark on =>
    exact h.need fun r hr => h.putRegion on (I.region_move .setMark (h.regions.find? hr))
  | reset on =>
    refine h.need fun r hr => ?_
    have hkept := h.putRegion on (I.region_move .reset (h.regions.find? hr))
    exact .ofReply hkept fun _ _ => hkept

lemma holds_arena (command : ArenaCommand) : I.Holds (command.step s).session := by
  cases command with
  | new order slabCapacity name =>
    simp only [ArenaCommand.step, Arena.new]
    split
    case h_1 => exact h
    case h_2 hnew =>
      split at hnew
      · cases hnew
      · obtain rfl := Except.ok.inj hnew
        exact { h with arenas := h.arenas.insert name (I.arena_new order slabCapacity) }
  | allocate on capacity name =>
    refine h.need fun a ha => ?_
    have harena := h.arenas.find? ha
    have hkept : I.Holds { s with arenas := s.arenas.insert on (a.allocate capacity).state } :=
      { h with arenas := h.arenas.insert on (I.arena_allocate capacity harena) }
    exact .ofReply hkept fun b hok => hkept.putBuffer name (I.buffer_allocate harena hok)
  | snapshot | text => exact h.ask ..
  | drop on => exact { h with arenas := h.arenas.erase on }

lemma holds_slab (command : SlabCommand) : I.Holds (command.step s).session := by
  cases command with
  | allocate id capacity name =>
    simp only [SlabCommand.step]
    split
    case h_1 => exact h
    case h_2 sl hnew => exact { h with slabs := h.slabs.insert name (I.slab_allocate hnew) }
  | carve on length name =>
    refine h.need fun sl hsl => ?_
    have hslab := h.slabs.find? hsl
    have hkept : I.Holds { s with slabs := s.slabs.insert on (sl.carve? length).state } :=
      { h with slabs := h.slabs.insert on (I.slab_carve length hslab) }
    refine .ofReply hkept fun found hok => ?_
    cases found with
    | none => exact hkept
    | some chunk => exact { hkept with chunks := h.chunks.insert name (I.bytes_carve hslab hok) }
  | text => exact h.ask ..
  | drop on => exact { h with slabs := h.slabs.erase on }

lemma holds_buffer {command : BufferCommand} (hadmits : I.Admits s (.buffer command)) :
    I.Holds (command.step s).session := by
  cases command with
  | empty name => exact h.putBuffer name I.buffer_empty
  | wrap order source name =>
    exact h.use hadmits fun t content ht hcontent =>
      ht.putBuffer name (I.buffer_wrap order hcontent)
  | info | bytes | text => exact h.ask ..
  | perform on op =>
    refine h.need fun b hb => ?_
    have hkept := h.putBuffer on (I.buffer_perform (h.buffers.find? hb) (hadmits b hb))
    exact .ofReply hkept fun _ _ => hkept
  | freeze on name =>
    refine h.need fun b hb => ?_
    exact { h with
      buffers := h.buffers.erase on
      frozen := h.frozen.insert name (I.bytes_freeze (h.buffers.find? hb)) }
  | drop on => exact { h with buffers := h.buffers.erase on }

theorem holds_step {command : Command} (hadmits : I.Admits s command) :
    I.Holds (s.step command).session := by
  cases command with
  | pool command => exact holds_pool h hadmits
  | registry command => exact holds_registry h command
  | region command => exact holds_region h hadmits
  | arena command => exact holds_arena h command
  | slab command => exact holds_slab h command
  | buffer command => exact holds_buffer h hadmits

end Steps

/-! ### Runs -/

/-- Each command of a run is admitted where it comes. -/
def AdmitsRun (I : Invariant) (s : Session) : List Command → Prop
  | [] => True
  | command :: commands => I.Admits s command ∧ I.AdmitsRun (s.step command).session commands

theorem holds_run (h : I.Holds s) {commands : List Command} (hadmits : I.AdmitsRun s commands) :
    ∀ turn ∈ s.run commands, I.Holds turn.session := by
  induction commands generalizing s with
  | nil => nofun
  | cons command commands ih =>
    have hstep := holds_step h hadmits.1
    exact List.forall_mem_cons.mpr ⟨hstep, ih hstep hadmits.2⟩

end Invariant
end BytePool.Session
