import BytePool.Reply.Event

/-!
# Replies

A request is answered with its outcome, the state after it and the events it sent. The state is
there even when the request fails, since a request that fails half way may have left marks.
-/
namespace BytePool

structure Reply (σ α : Type) where
  outcome : Except Failure α
  state : σ
  events : List Event := []

namespace Reply
variable {σ τ α β : Type}

def done (value : α) (state : σ) : Reply σ α := ⟨.ok value, state, []⟩

def refuse (error : Error) (state : σ) : Reply σ α := ⟨.error (.refused error), state, []⟩

def overflow (state : σ) : Reply σ α := ⟨.error .capacityOverflow, state, []⟩

/-- Sends an event with a reply. -/
def emit (event : Event) (reply : Reply σ α) : Reply σ α :=
  { reply with events := event :: reply.events }

/-- Goes on from the state and the value of a request that succeeded. -/
def bind (reply : Reply σ α) (next : σ → α → Reply σ β) : Reply σ β :=
  match reply.outcome with
  | .error failure => ⟨.error failure, reply.state, reply.events⟩
  | .ok value =>
    let following := next reply.state value
    { following with events := reply.events ++ following.events }

def map (f : α → β) (reply : Reply σ α) : Reply σ β :=
  { reply with outcome := reply.outcome.map f }

/-- Sees the state as a part of a larger one. -/
def within (put : σ → τ) (reply : Reply σ α) : Reply τ α :=
  { reply with state := put reply.state }

@[simp] theorem done_bind (value : α) (state : σ) (next : σ → α → Reply σ β) :
    (done value state).bind next = next state value := by simp [bind, done]

@[simp] theorem refuse_bind (error : Error) (state : σ) (next : σ → α → Reply σ β) :
    (refuse error state : Reply σ α).bind next = refuse error state := rfl

@[simp] theorem overflow_bind (state : σ) (next : σ → α → Reply σ β) :
    (overflow state : Reply σ α).bind next = overflow state := rfl

@[simp] theorem emit_bind (event : Event) (reply : Reply σ α) (next : σ → α → Reply σ β) :
    (reply.emit event).bind next = (reply.bind next).emit event := by
  cases h : reply.outcome <;> simp [bind, emit, h]

@[simp] theorem state_map (f : α → β) (reply : Reply σ α) : (reply.map f).state = reply.state := rfl

@[simp] theorem events_map (f : α → β) (reply : Reply σ α) :
    (reply.map f).events = reply.events := rfl

@[simp] theorem outcome_within (put : σ → τ) (reply : Reply σ α) :
    (reply.within put).outcome = reply.outcome := rfl

@[simp] theorem events_within (put : σ → τ) (reply : Reply σ α) :
    (reply.within put).events = reply.events := rfl

end Reply

/-- The greatest size of one allocation. -/
def maxAllocation : Nat := 0x7fffffffffffffff

/-- The greatest number of one machine word. -/
def maxWord : Nat := 0xffffffffffffffff

end BytePool
