import DeviceVerification.Proofs.Log
import DeviceVerification.Proofs.Verification.Transition

/-!
# Runs of a verification

A `Run` performs operations on a verification, each under its own answers of the surroundings, and
writes down what every one of them found and did. What the transitions keep holds after every
sequence of operations (`Run.steps_induction`).
-/

namespace DeviceVerification.Verification

/-- An operation of a run, and what came of it. -/
structure Record where
  /-- The verification that the operation found. -/
  before : Verification
  op : Operation
  answers : Answers
  outcome : Outcome

/-- A verification with its key source and everything that happened to it. -/
structure Run where
  verification : Verification
  source : KeySource
  log : List Record

namespace Run

/-- A verification to which nothing happened yet. -/
def begin (v : Verification) (source : KeySource) : Run := ⟨v, source, []⟩

/-- The run after an operation with this outcome. -/
def extend (r : Run) (op : Operation) (a : Answers) (outcome : Outcome) : Run :=
  ⟨outcome.verification, outcome.source, r.log ++ [⟨r.verification, op, a, outcome⟩]⟩

/-- Performs one operation. -/
def step (r : Run) (event : Operation × Answers) : Run :=
  r.extend event.1 event.2 (perform event.2 event.1 r.verification r.source)

/-- Performs operations one after the other. -/
def steps (r : Run) (events : List (Operation × Answers)) : Run := events.foldl step r

theorem steps_concat (r : Run) (events : List (Operation × Answers)) (event : Operation × Answers) :
    r.steps (events ++ [event]) = (r.steps events).step event := by
  simp [steps, List.foldl_append]

/-- Everything that was asked of the surroundings, in its order. -/
def effects (r : Run) : List Effect := r.log.flatMap (·.outcome.effects)

@[simp] theorem effects_extend (r : Run) (op : Operation) (a : Answers) (outcome : Outcome) :
    (r.extend op a outcome).effects = r.effects ++ outcome.effects := by
  simp [effects, extend]

section

variable {P : Run → Prop}
  (wait : ∀ r op a, P r → r.verification.held = true →
    P (r.extend op a ⟨r.verification, r.source, [], .waiting⟩))
  (change : ∀ r op a outcome, P r → r.verification.held = false →
    Transition a (r.verification.counted op) r.source op outcome → P (r.extend op a outcome))

include wait change

/-- What waiting and the transitions keep holds after an operation. -/
theorem step_preserves {r : Run} (h : P r) (event : Operation × Answers) : P (r.step event) := by
  obtain ⟨op, a⟩ := event
  cases held : r.verification.held with
  | true =>
    rw [step, perform_of_held held]
    exact wait r op a h held
  | false => exact change r op a _ h held (transition_of_perform held op)

/-- What waiting and the transitions keep holds after every sequence of operations. -/
theorem steps_induction {r : Run} (start : P r) (events : List (Operation × Answers)) :
    P (r.steps events) := by
  unfold steps
  induction events generalizing r with
  | nil => exact start
  | cons event events ih => exact ih (step_preserves wait change start event)

end

/-- A run that has everything that happened to its verification since the request. -/
def Whole (r : Run) : Prop :=
  ∃ own settings route request source events,
    r = (begin (ofRequest own settings route request) source).steps events

end Run

/-- A verification to which operations on a request that nobody has answered lead. -/
def Reachable (v : Verification) : Prop := ∃ r : Run, r.Whole ∧ r.verification = v

/-- What holds before the first operation and is kept by the transitions holds of every verification
that is reached. -/
theorem Reachable.induction {P : Verification → Prop} {v : Verification} (reached : Reachable v)
    (start : ∀ own settings route request, P (ofRequest own settings route request))
    (change : ∀ v op a source outcome, P v → v.held = false →
      Transition a (v.counted op) source op outcome → P outcome.verification) : P v := by
  obtain ⟨_, ⟨own, settings, route, request, source, events, rfl⟩, rfl⟩ := reached
  refine Run.steps_induction (P := fun r => P r.verification) ?_ ?_ ?_ events
  · exact fun r op a h _ => h
  · exact fun r op a outcome h free t => change r.verification op a r.source outcome h free t
  · exact start own settings route request

end DeviceVerification.Verification
