import BytePool.Pool.Run
import BytePool.Pool.Sharing
import BytePool.Session.Names

/-!
# Sessions

A session holds objects under names, separately for each kind. Pools are held by handle, so two
names can mean one pool.
-/
namespace BytePool

structure Session where
  heap : Heap := {}
  pools : Session.Names Handle := {}
  registries : Session.Names Registry := {}
  buffers : Session.Names Buffer := {}
  regions : Session.Names Region := {}
  /-- The bytes of buffers that were given up. -/
  frozen : Session.Names (List UInt8) := {}
  arenas : Session.Names Arena := {}
  slabs : Session.Names Slab := {}
  chunks : Session.Names Chunk := {}

namespace Session

/-- What a pool was made with. -/
structure PoolInfo where
  defaultOrder : ByteOrder
  slabCapacity : Nat
  deriving DecidableEq, Repr

def PoolInfo.of (pool : Pool) : PoolInfo := ⟨pool.defaultOrder, pool.slabCapacity⟩

/-- What a registry was made with, and what its pools were. -/
structure RegistryInfo where
  defaultOrder : ByteOrder
  slabCapacity : Nat
  preferred : PoolInfo
  pools : PerOrder PoolInfo
  deriving DecidableEq, Repr

/-- What a step delivers. -/
inductive Answer where
  | nothing
  | truth (value : Bool)
  | number (value : Int)
  | text (value : String)
  | bytes (value : List UInt8)
  | pool (info : PoolInfo)
  | stats (stats : Pool.Stats)
  | snapshot (snapshot : Arena.Snapshot)
  | registry (info : RegistryInfo)
  | region (region : Region)
  | arena (order : ByteOrder) (slabCapacity : Nat)
  | slab (slab : Slab)
  | chunk (chunk : Chunk)
  | buffer (b : Buffer)

/-- Why a step delivers nothing. -/
inductive Refusal where
  | failed (failure : Failure)
  | noSuchObject (name : String)
  deriving DecidableEq, Repr

/-- What came of a step. -/
structure Turn where
  outcome : Except Refusal Answer
  session : Session
  events : List Event := []

namespace Turn

def answer (a : Answer) (s : Session) : Turn := ⟨.ok a, s, []⟩

def refuse (e : Error) (s : Session) : Turn := ⟨.error (.failed (.refused e)), s, []⟩

def missing (name : String) (s : Session) : Turn := ⟨.error (.noSuchObject name), s, []⟩

/-- Takes up a reply: the session keeps the state after it, and goes on from the value if there is
one. -/
def ofReply {σ α : Type} (reply : Reply σ α) (keep : σ → Session)
    (next : Session → α → Answer × Session) : Turn :=
  match reply.outcome with
  | .error failure => ⟨.error (.failed failure), keep reply.state, reply.events⟩
  | .ok value =>
    let (a, s) := next (keep reply.state) value
    ⟨.ok a, s, reply.events⟩

end Turn

/-- Goes on with an object, or reports that the name holds none. -/
def need {α : Type} (s : Session) (found : Option α) (name : String) (next : α → Turn) : Turn :=
  match found with
  | none => .missing name s
  | some object => next object

/-- A step that delivers what is already there. -/
def ask {α : Type} (s : Session) (found : Option α) (name : String) (answer : α → Answer) : Turn :=
  s.need found name fun object => .answer (answer object) s

/-! ### Pools by name -/

def handled? (s : Session) (name : String) : Option (Handle × Pool) := do
  let handle ← s.pools.find? name
  return (handle, ← s.heap.get? handle)

def pool? (s : Session) (name : String) : Option Pool := (s.handled? name).map Prod.snd

/-- Stores a new pool and shows it, if there is one. -/
def keepPool (s : Session) (name : String) : Except Error Pool → Turn
  | .error e => .refuse e s
  | .ok pool =>
    let (handle, heap) := s.heap.add pool
    .answer (.pool (.of pool)) { s with heap, pools := s.pools.insert name handle }

/-! ### Buffers by name -/

def putBuffer (s : Session) (name : String) (b : Buffer) : Session :=
  { s with buffers := s.buffers.insert name b }

/-- Stores a new buffer and shows it. -/
def keepBuffer (name : String) (s : Session) (b : Buffer) : Answer × Session :=
  (.buffer b, s.putBuffer name b)

end Session
end BytePool
