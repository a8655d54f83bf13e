import BytePool.Pool.Copy

/-! Requests to a pool as data, and runs of them. -/
namespace BytePool.Pool

inductive Request where
  | buffer (order : ByteOrder) (capacity : Nat)
  | defaultBuffer (capacity : Nat)
  | copyRange (order : ByteOrder) (source : List UInt8) (offset length : Nat)
  | copyBytes (source : List UInt8)
  | adoptRegion (region : Region)
  | copyRegion (region : Region)
  deriving DecidableEq, Repr

def serve (pool : Pool) : Request → Reply Pool Buffer
  | .buffer order capacity => pool.buffer order capacity
  | .defaultBuffer capacity => pool.buffer pool.defaultOrder capacity
  | .copyRange order source offset length => pool.copyRange order source offset length
  | .copyBytes source => pool.copyBytes source
  | .adoptRegion region => pool.adoptRegion region
  | .copyRegion region => (pool.copyRegion region).within Prod.fst

/-- What came of a run of requests. -/
structure Run where
  outcomes : List (Except Failure Buffer)
  state : Pool
  events : List Event

/-- Serves requests one after the other; one that fails ends only itself. -/
def run (pool : Pool) : List Request → Run
  | [] => ⟨[], pool, []⟩
  | request :: requests =>
    let reply := pool.serve request
    let later := reply.state.run requests
    ⟨reply.outcome :: later.outcomes, later.state, reply.events ++ later.events⟩

@[simp] theorem length_outcomes_run (pool : Pool) (requests : List Request) :
    (pool.run requests).outcomes.length = requests.length := by
  induction requests generalizing pool with
  | nil => rfl
  | cons request requests ih => simp [run, ih]

theorem state_run_append (pool : Pool) (first later : List Request) :
    (pool.run (first ++ later)).state = ((pool.run first).state.run later).state := by
  induction first generalizing pool with
  | nil => rfl
  | cons request requests ih => simp [run, ih]

/-- The slab ranges of the delivered buffers in the sequence of their requests; nothing for a buffer
that is no slice. -/
def Run.ranges (run : Run) : List (Option (Nat × Nat × Nat)) :=
  run.outcomes.filterMap fun
    | .ok b => some b.origin.slabRange?
    | .error _ => none

/-- Serves so many equal requests of each of several callers. It makes no difference whose request
is served when, since an arena carves equal slices one after the other; so their ranges ascend. -/
def equalLoad (pool : Pool) (callers each : Nat) (order : ByteOrder) (capacity : Nat) : Run :=
  pool.run (List.replicate (callers * each) (.buffer order capacity))

end BytePool.Pool
