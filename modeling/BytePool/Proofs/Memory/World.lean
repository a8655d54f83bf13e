import BytePool.Proofs.Memory.Isolation
import BytePool.Proofs.Pool.Projection

/-!
# Shared slabs and own bytes

Two machines run the same commands on arenas, pools and the buffers that these have delivered. In
one each buffer has its bytes to itself, in the other a slice is a window on the array of its slab.
-/
namespace BytePool

/-- A way to keep the bytes of buffers. -/
structure Backing (σ β : Type) where
  hold : Owner → Buffer → β
  view : β → σ → Buffer
  perform : β → σ → Buffer.Operation → Reply (σ × β) Buffer.Result

/-- Every buffer has its bytes to itself. -/
def Backing.values : Backing Unit Buffer where
  hold _ b := b
  view b _ := b
  perform b _ op := (b.perform op).within ((), ·)

/-- The slabs are arrays that the buffers share. -/
def Backing.windows : Backing Memory Holding where
  hold := Holding.hold
  view := Holding.view
  perform := Holding.perform

/-- Arenas, pools, and all buffers that were delivered; nothing for a buffer that was dropped. -/
structure World (σ β : Type) where
  arenas : List Arena
  pools : List Pool
  memory : σ
  entries : List (Option (Entry β)) := []

namespace World
variable {σ β : Type}

inductive Command where
  | allocate (arena capacity : Nat)
  | request (pool : Nat) (order : ByteOrder) (capacity : Nat)
  | perform (buffer : Nat) (operation : Buffer.Operation)
  | bytes (buffer : Nat)
  | freeze (buffer : Nat)
  | drop (buffer : Nat)
  deriving DecidableEq, Repr

/-- The buffer that a command may change. -/
def Command.target? : Command → Option Nat
  | .perform j _ | .freeze j | .drop j => some j
  | .allocate _ _ | .request _ _ _ | .bytes _ => none

inductive Outcome where
  | delivered (b : Buffer)
  | failed (failure : Failure)
  | performed (outcome : Except Failure Buffer.Result)
  | bytes (content : List UInt8)
  | dropped
  /-- There is nothing that the command could be about. -/
  | absent
  deriving DecidableEq

/-- Keeps a buffer that was delivered. -/
def deliver (k : Backing σ β) (w : World σ β) (owner : Owner) :
    Except Failure Buffer → Outcome × World σ β
  | .error failure => (.failed failure, w)
  | .ok b =>
    (.delivered (k.view (k.hold owner b) w.memory),
      { w with entries := w.entries ++ [some { buffer := k.hold owner b }] })

def step (k : Backing σ β) (w : World σ β) : Command → Outcome × World σ β
  | .allocate i capacity =>
    match w.arenas[i]? with
    | none => (.absent, w)
    | some arena =>
      let reply := arena.allocate capacity
      { w with arenas := w.arenas.set i reply.state }.deliver k (.arena i) reply.outcome
  | .request i order capacity =>
    match w.pools[i]? with
    | none => (.absent, w)
    | some pool =>
      let reply := pool.buffer order capacity
      { w with pools := w.pools.set i reply.state }.deliver k (.pool i order) reply.outcome
  | .perform j op =>
    match w.entries[j]? with
    | some (some ⟨b, false⟩) =>
      let reply := k.perform b w.memory op
      (.performed reply.outcome,
        { w with
          memory := reply.state.1
          entries := w.entries.set j (some { buffer := reply.state.2 }) })
    | _ => (.absent, w)
  | .bytes j =>
    match w.entries[j]? with
    | some (some e) => (.bytes (k.view e.buffer w.memory).readable, w)
    | _ => (.absent, w)
  | .freeze j =>
    match w.entries[j]? with
    | some (some ⟨b, false⟩) =>
      (.bytes (k.view b w.memory).freeze, { w with entries := w.entries.set j (some ⟨b, true⟩) })
    | _ => (.absent, w)
  | .drop j =>
    match w.entries[j]? with
    | some (some _) => (.dropped, { w with entries := w.entries.set j none })
    | _ => (.absent, w)

/-- The outcomes of commands one after the other, and the world they leave. -/
def run (k : Backing σ β) (w : World σ β) : List Command → List Outcome × World σ β
  | [] => ([], w)
  | command :: commands =>
    let (outcome, next) := w.step k command
    let (outcomes, last) := next.run k commands
    (outcome :: outcomes, last)

/-- What can be seen of all buffers. -/
def views (k : Backing σ β) (w : World σ β) : List (Option (Entry Buffer)) :=
  w.entries.map (Option.map (Entry.map (k.view · w.memory)))

/-! ### Arenas by their owners -/

def arena? (arenas : List Arena) (pools : List Pool) : Owner → Option Arena
  | .arena i => arenas[i]?
  | .pool i order => pools[i]?.map (·.arenas.get order)

def mark (arenas : Owner → Option Arena) (owner : Owner) : Mark :=
  ((arenas owner).map Arena.mark).getD (0, 0)

def capacity (arenas : Owner → Option Arena) (owner : Owner) : Nat :=
  ((arenas owner).map Arena.slabCapacity).getD 0

/-- The world before all commands, where all bytes of all slabs are zero. -/
def start (arenas : List Arena) (pools : List Pool) : World Memory Holding where
  arenas
  pools
  memory := .zero (capacity (arena? arenas pools))

/-- The same where every buffer has its bytes to itself. -/
def startValues (arenas : List Arena) (pools : List Pool) : World Unit Buffer :=
  { arenas, pools, memory := () }

/-- The same world with a buffer for each holding. -/
def values (w : World Memory Holding) : World Unit Buffer where
  arenas := w.arenas
  pools := w.pools
  memory := ()
  entries := w.views .windows

end World
end BytePool
