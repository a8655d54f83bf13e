import BytePool.Reply
import Mathlib.Tactic.Common

/-!
# Checked steps

Requests as they are carried out on storage: each difference, sum, slice and assertion on the way is
checked, and a check that fails is a fault that stops everything. An attempt follows a request if no
check fails and what comes of it stands for the reply.
-/
namespace BytePool

/-- What stops an attempt. -/
inductive Fault where
  /-- A difference below zero. -/
  | underflow
  /-- A sum that no machine word holds. -/
  | overflow
  | outOfRange
  | assertion
  /-- A way out of a failure that cannot happen. -/
  | unreachable
  /-- A buffer that grows beyond all memory. -/
  | outOfMemory
  deriving DecidableEq, Repr

namespace Checked

/-! ### Single checks -/

def ensure (P : Prop) [Decidable P] (fault : Fault) : Except Fault Unit :=
  if P then .ok () else .error fault

def sub (a b : Nat) : Except Fault Nat := if b ≤ a then .ok (a - b) else .error .underflow

def add (a b : Nat) : Except Fault Nat := if a + b ≤ maxWord then .ok (a + b) else .error .overflow

/-- The bytes from a start up to an end. -/
def slice (bytes : List UInt8) (start stop : Nat) : Except Fault (List UInt8) :=
  if start ≤ stop ∧ stop ≤ bytes.length then .ok ((bytes.drop start).take (stop - start))
  else .error .outOfRange

/-- The bytes from a start on. -/
def suffix (bytes : List UInt8) (start : Nat) : Except Fault (List UInt8) :=
  if start ≤ bytes.length then .ok (bytes.drop start) else .error .outOfRange

lemma ensure_of {P : Prop} [Decidable P] (h : P) (fault : Fault) : ensure P fault = .ok () :=
  if_pos h

lemma sub_of_le {a b : Nat} (h : b ≤ a) : sub a b = .ok (a - b) := if_pos h

lemma add_of_le {a b : Nat} (h : a + b ≤ maxWord) : add a b = .ok (a + b) := if_pos h

lemma slice_of_le {bytes : List UInt8} {start stop : Nat} (hs : start ≤ stop)
    (h : stop ≤ bytes.length) :
    slice bytes start stop = .ok ((bytes.drop start).take (stop - start)) :=
  if_pos ⟨hs, h⟩

lemma suffix_of_le {bytes : List UInt8} {start : Nat} (h : start ≤ bytes.length) :
    suffix bytes start = .ok (bytes.drop start) :=
  if_pos h

end Checked

/-! ### Attempts -/

/-- A reply, unless a check fails. -/
abbrev Attempt (σ α : Type) := Except Fault (Reply σ α)

namespace Attempt
variable {σ τ α β γ : Type}

/-- Goes on from the state and the value of an attempt that succeeded. -/
def bind (attempt : Attempt σ α) (next : σ → α → Attempt σ β) : Attempt σ β :=
  Except.bind attempt fun reply =>
    match reply.outcome with
    | .error failure => .ok ⟨.error failure, reply.state, reply.events⟩
    | .ok value =>
      Except.map (fun following => { following with events := reply.events ++ following.events })
        (next reply.state value)

/-- Makes something of the value, which may take checks of its own. -/
def read (attempt : Attempt σ α) (f : α → Except Fault β) : Attempt σ β :=
  attempt.bind fun state value => Except.map (Reply.done · state) (f value)

def within (put : σ → τ) (attempt : Attempt σ α) : Attempt τ α :=
  Except.map (Reply.within put) attempt

def emit (event : Event) (attempt : Attempt σ α) : Attempt σ α :=
  Except.map (Reply.emit event) attempt

/-- An attempt that must not be refused. -/
def certain (attempt : Attempt σ α) : Attempt σ α :=
  Except.bind attempt fun reply =>
    match reply.outcome with
    | .error (.refused _) => .error .unreachable
    | _ => .ok reply

@[simp] lemma done_bind (value : α) (state : σ) (next : σ → α → Attempt σ β) :
    bind (.ok (.done value state)) next = next state value := by
  cases h : next state value <;> simp [bind, Except.bind, Except.map, Reply.done, h]

lemma ok_bind_of_ok {reply : Reply σ α} {value : α} (h : reply.outcome = .ok value)
    (next : σ → α → Attempt σ β) :
    bind (.ok reply) next = Except.map
      (fun following => { following with events := reply.events ++ following.events })
      (next reply.state value) := by
  simp [bind, Except.bind, h]

/-- To make something of the value without checks. -/
@[simp] lemma ok_read (reply : Reply σ α) (f : α → β) :
    read (.ok reply) (fun value => .ok (f value)) = .ok (reply.map f) := by
  obtain ⟨_ | _, _, _⟩ := reply <;>
    simp [read, bind, Except.bind, Except.map, Reply.map, Reply.done]

@[simp] lemma emit_bind (event : Event) (attempt : Attempt σ α) (next : σ → α → Attempt σ β) :
    (attempt.emit event).bind next = (attempt.bind next).emit event := by
  obtain fault | ⟨_ | value, state, events⟩ := attempt
  · rfl
  · rfl
  · cases h : next state value <;> simp [bind, emit, Except.bind, Except.map, Reply.emit, h]

end Attempt

lemma Reply.map_map {σ α β γ : Type} (reply : Reply σ α) (f : α → β) (g : β → γ) :
    (reply.map f).map g = reply.map (g ∘ f) := by
  obtain ⟨_ | _, _, _⟩ := reply <;> rfl

/-! ### What an attempt stands for -/

/-- What things on storage stand for, and which of them stand for anything. -/
structure Abstraction (σ τ : Type) where
  view : σ → τ
  Sound : σ → Prop

namespace Abstraction
variable {σ τ α β : Type}

/-- Things that stand for themselves. -/
def such (P : α → Prop) : Abstraction α α := ⟨id, P⟩

def same : Abstraction α α := such fun _ => True

def prod (A : Abstraction σ τ) (B : Abstraction α β) : Abstraction (σ × α) (τ × β) where
  view pair := (A.view pair.1, B.view pair.2)
  Sound pair := A.Sound pair.1 ∧ B.Sound pair.2

end Abstraction

/-- No check fails, and what comes of the attempt stands for the reply. -/
def Attempt.Follows {σ τ α β : Type} (A : Abstraction σ τ) (B : Abstraction α β)
    (attempt : Attempt σ α) (reply : Reply τ β) : Prop :=
  ∃ done, attempt = .ok done ∧ A.Sound done.state ∧ (∀ a, done.outcome = .ok a → B.Sound a) ∧
    reply = (done.within A.view).map B.view

namespace Attempt.Follows
variable {σ τ ρ υ α β γ δ : Type}
variable {A : Abstraction σ τ} {B : Abstraction α β} {C : Abstraction γ δ}
variable {attempt : Attempt σ α} {reply : Reply τ β}

lemma done {state : σ} {value : α} (hs : A.Sound state) (hv : B.Sound value) :
    Follows A B (.ok (.done value state)) (.done (B.view value) (A.view state)) :=
  ⟨_, rfl, hs, fun _ h => Except.ok.inj h ▸ hv, rfl⟩

lemma refuse {state : σ} (hs : A.Sound state) (e : Error) :
    Follows A B (.ok (.refuse e state)) (.refuse e (A.view state)) :=
  ⟨_, rfl, hs, nofun, rfl⟩

lemma overflow {state : σ} (hs : A.Sound state) :
    Follows A B (.ok (.overflow state)) (.overflow (A.view state)) :=
  ⟨_, rfl, hs, nofun, rfl⟩

/-- A reply that takes no checks. -/
lemma of_reply {P : σ → Prop} {reply : Reply σ α} (hs : P reply.state) :
    Follows (.such P) .same (.ok reply) reply := by
  refine ⟨reply, rfl, hs, fun _ _ => trivial, ?_⟩
  obtain ⟨_ | _, _, _⟩ := reply <;> rfl

/-- What stands for itself is the reply. -/
lemma eq_ok {attempt : Attempt σ α} {reply : Reply σ α} (h : Follows .same .same attempt reply) :
    attempt = .ok reply := by
  obtain ⟨⟨outcome, state, events⟩, rfl, -, -, rfl⟩ := h
  cases outcome <;> rfl

lemma emit (h : Follows A B attempt reply) (event : Event) :
    Follows A B (attempt.emit event) (reply.emit event) := by
  obtain ⟨done, rfl, hs, hv, rfl⟩ := h
  exact ⟨_, rfl, hs, hv, rfl⟩

/-- To know more of the values than is asked for. -/
lemma weaken {D : Abstraction α β} (h : Follows A B attempt reply)
    (hD : ∀ value, B.Sound value → D.Sound value ∧ D.view value = B.view value) :
    Follows A D attempt reply := by
  obtain ⟨done, rfl, hs, hv, rfl⟩ := h
  refine ⟨done, rfl, hs, fun a ha => (hD a (hv a ha)).1, ?_⟩
  cases ho : done.outcome with
  | error failure => simp [Reply.map, Reply.within, ho, Except.map]
  | ok a => simp [Reply.map, Reply.within, ho, Except.map, (hD a (hv a ho)).2]

/-- A request that is not refused never goes the way that cannot be gone. -/
lemma certain (h : Follows A B attempt reply) (hne : ∀ e, reply.outcome ≠ .error (.refused e)) :
    Follows A B attempt.certain reply := by
  obtain ⟨⟨outcome, state, events⟩, rfl, hs, hv, rfl⟩ := h
  refine ⟨_, ?_, hs, hv, rfl⟩
  cases outcome with
  | error failure =>
    cases failure with
    | refused e => exact absurd rfl (hne e)
    | capacityOverflow => rfl
  | ok value => rfl

/-- What comes first may be known to leave more than what comes after it needs. -/
lemma bind_of {D : Abstraction σ τ} (h : Follows A B attempt reply)
    (hD : ∀ state, A.Sound state → D.Sound state ∧ D.view state = A.view state)
    {next : σ → α → Attempt σ γ} {after : τ → β → Reply τ δ}
    (hnext : ∀ state value, A.Sound state → B.Sound value →
      Follows D C (next state value) (after (A.view state) (B.view value))) :
    Follows D C (attempt.bind next) (reply.bind after) := by
  obtain ⟨⟨outcome, state, events⟩, rfl, hs, hv, rfl⟩ := h
  obtain ⟨hsound, hview⟩ := hD state hs
  cases outcome with
  | error failure =>
    refine ⟨_, rfl, hsound, nofun, ?_⟩
    simp [Reply.bind, Reply.map, Reply.within, Except.map, hview]
  | ok value =>
    obtain ⟨following, heq, hs', hv', hreply⟩ := hnext state value hs (hv value rfl)
    refine ⟨{ following with events := events ++ following.events }, ?_, hs', hv', ?_⟩
    · simp [Attempt.bind, Except.bind, Except.map, heq]
    · simp only [Reply.bind, Reply.map, Reply.within, Except.map] at hreply ⊢
      rw [hreply]

lemma bind (h : Follows A B attempt reply) {next : σ → α → Attempt σ γ}
    {after : τ → β → Reply τ δ}
    (hnext : ∀ state value, A.Sound state → B.Sound value →
      Follows A C (next state value) (after (A.view state) (B.view value))) :
    Follows A C (attempt.bind next) (reply.bind after) :=
  h.bind_of (fun _ hs => ⟨hs, rfl⟩) hnext

lemma read (h : Follows A B attempt reply) {f : α → Except Fault γ} {g : β → δ}
    (hf : ∀ value, B.Sound value → ∃ c, f value = .ok c ∧ C.Sound c ∧ g (B.view value) = C.view c) :
    Follows A C (attempt.read f) (reply.map g) := by
  have hbind : Follows A C (attempt.read f) (reply.bind fun state value => .done (g value) state) :=
    h.bind fun state value hs hv => by
      obtain ⟨c, hc, hsound, hview⟩ := hf value hv
      rw [hc, hview]
      exact done hs hsound
  have hmap : reply.bind (fun state value => .done (g value) state) = reply.map g := by
    obtain ⟨_ | _, _, _⟩ := reply <;> simp [Reply.bind, Reply.map, Reply.done, Except.map]
  rwa [hmap] at hbind

/-- The state as a part of a larger one. -/
lemma within {D : Abstraction ρ υ} (h : Follows A B attempt reply) {f : σ → ρ} {g : τ → υ}
    (hf : ∀ state, A.Sound state → D.Sound (f state) ∧ D.view (f state) = g (A.view state)) :
    Follows D B (attempt.within f) (reply.within g) := by
  obtain ⟨done, rfl, hs, hv, rfl⟩ := h
  obtain ⟨hsound, hview⟩ := hf done.state hs
  refine ⟨done.within f, rfl, hsound, hv, ?_⟩
  simp [Reply.within, Reply.map, hview]

/-- What was changed is itself the value of a larger request. -/
lemma asValue {D : Abstraction ρ υ} (h : Follows A B attempt reply) {whole : ρ}
    (hwhole : D.Sound whole) :
    Follows D A
      (Except.map (fun done =>
        { outcome := done.outcome.map fun _ => done.state, state := whole, events := done.events })
        attempt)
      { outcome := reply.outcome.map fun _ => reply.state
        state := D.view whole
        events := reply.events } := by
  obtain ⟨⟨outcome, state, events⟩, rfl, hs, hv, rfl⟩ := h
  refine ⟨_, rfl, hwhole, ?_, ?_⟩
  · cases outcome with
    | error failure => nofun
    | ok value => exact fun _ heq => Except.ok.inj heq ▸ hs
  · cases outcome <;> rfl

end Attempt.Follows
end BytePool
