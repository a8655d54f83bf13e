import BytePool.Session.Carving
import BytePool.Session.Memory
import BytePool.Session.Pools

/-!
# Commands

A step runs one command. After it any object can be looked at by its kind and name, as far as it is
there.
-/
namespace BytePool.Session

inductive Command where
  | pool (command : PoolCommand)
  | registry (command : RegistryCommand)
  | region (command : RegionCommand)
  | arena (command : ArenaCommand)
  | slab (command : SlabCommand)
  | buffer (command : BufferCommand)

def step (s : Session) : Command → Turn
  | .pool command => command.step s
  | .registry command => command.step s
  | .region command => command.step s
  | .arena command => command.step s
  | .slab command => command.step s
  | .buffer command => command.step s

/-- Runs commands one after the other; one that fails ends only its own step. -/
def run (s : Session) : List Command → List Turn
  | [] => []
  | command :: commands =>
    let turn := s.step command
    turn :: turn.session.run commands

@[simp] theorem length_run (s : Session) (commands : List Command) :
    (s.run commands).length = commands.length := by
  induction commands generalizing s with
  | nil => rfl
  | cons command commands ih => simp [run, ih]

/-! ### Looking at objects -/

/-- An object by its kind and name. -/
inductive Subject where
  | pool (name : String)
  | region (name : String)
  | arena (name : String)
  | slab (name : String)
  | buffer (name : String)
  deriving DecidableEq, Repr

/-- An object as it stands. -/
inductive View where
  | pool (stats : Pool.Stats)
  | region (region : Region)
  | arena (snapshot : Arena.Snapshot)
  | slab (slab : Slab)
  | buffer (b : Buffer)

def view? (s : Session) : Subject → Option View
  | .pool name => (s.pool? name).map fun pool => .pool pool.stats
  | .region name => (s.regions.find? name).map .region
  | .arena name => (s.arenas.find? name).map fun arena => .arena arena.snapshot
  | .slab name => (s.slabs.find? name).map .slab
  | .buffer name => (s.buffers.find? name).map .buffer

/-- The objects that are there, in sequence. -/
def views (s : Session) (subjects : List Subject) : List View := subjects.filterMap s.view?

end BytePool.Session
