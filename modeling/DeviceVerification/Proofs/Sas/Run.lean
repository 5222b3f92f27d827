import DeviceVerification.Proofs.Log
import DeviceVerification.Proofs.Sas.Change

/-!
# Runs of a machine

A `Run` feeds inputs to a machine and writes every one of them down with the machine that took it
and what came of it, refusals included. A predicate of runs holds after every sequence of inputs if
refusals and changes keep it (`Run.steps_induction`).
-/

namespace DeviceVerification.Sas

/-- An input of a run and what came of it. -/
structure Event where
  /-- The machine that took the input. -/
  machine : Machine
  input : Input
  result : Except ActionError Machine.Drawn

namespace Event

/-- The steps that an input sent. -/
def outbound (e : Event) : List Step :=
  match e.result with
  | .ok d => d.turn.outbound
  | .error _ => []

/-- The machine after the input. -/
def after (e : Event) : Machine :=
  match e.result with
  | .ok d => d.machine
  | .error _ => e.machine

end Event

/-- Whether a step was sent somewhere in a log. -/
def Emitted (log : List Event) (s : Step) : Prop := ∃ e ∈ log, s ∈ e.outbound

@[simp] theorem emitted_nil (s : Step) : ¬Emitted [] s := by
  simp [Emitted]

@[simp] theorem emitted_concat {log : List Event} {e : Event} {s : Step} :
    Emitted (log ++ [e]) s ↔ Emitted log s ∨ s ∈ e.outbound := by
  simp [Emitted, or_and_right, exists_or]

/-- A machine with its key source and everything that it took so far. -/
structure Run where
  machine : Machine
  source : KeySource
  log : List Event

namespace Run

/-- A machine before its first input. -/
def begin (m : Machine) (source : KeySource) : Run := ⟨m, source, []⟩

/-- Feeds one input; a refused one is only written down. -/
def step (r : Run) (input : Input) : Run :=
  let log := r.log ++ [⟨r.machine, input, r.machine.take r.source input⟩]
  match r.machine.take r.source input with
  | .ok d => ⟨d.machine, d.source, log⟩
  | .error _ => ⟨r.machine, r.source, log⟩

/-- Feeds inputs one after the other. -/
def steps (r : Run) (inputs : List Input) : Run := inputs.foldl step r

/-- The run after a refused input. -/
def refuse (r : Run) (input : Input) (e : ActionError) : Run :=
  { r with log := r.log ++ [⟨r.machine, input, .error e⟩] }

/-- The run after an input that changed it. -/
def change (r : Run) (input : Input) (d : Machine.Drawn) : Run :=
  ⟨d.machine, d.source, r.log ++ [⟨r.machine, input, .ok d⟩]⟩

/-- A run is refused an input, or changed by it. -/
theorem step_cases (r : Run) (input : Input) :
    (∃ e, r.machine.take r.source input = .error e ∧ r.step input = r.refuse input e) ∨
      ∃ d, Machine.Change r.machine r.source input d ∧ r.step input = r.change input d := by
  unfold step
  cases taken : r.machine.take r.source input with
  | error e => exact .inl ⟨e, rfl, rfl⟩
  | ok d => exact .inr ⟨d, Machine.change_of_take taken, rfl⟩

section

variable {P : Run → Prop} {r : Run} (start : P r)
  (refuse : ∀ r input e, P r → r.machine.take r.source input = .error e → P (r.refuse input e))

include start refuse

/-- What refusals keep, and changes by inputs of a kind, holds after every sequence of inputs of
that kind. -/
theorem steps_induction_of {Q : Input → Prop}
    (change : ∀ r input d, P r → Q input → Machine.Change r.machine r.source input d →
      P (r.change input d)) (inputs : List Input) (kind : ∀ input ∈ inputs, Q input) :
    P (r.steps inputs) := by
  unfold steps
  induction inputs generalizing r with
  | nil => exact start
  | cons input inputs ih =>
    obtain ⟨first, later⟩ := List.forall_mem_cons.1 kind
    refine ih ?_ later
    rcases step_cases r input with ⟨e, refused, eq⟩ | ⟨d, changed, eq⟩
    · exact eq ▸ refuse r input e start refused
    · exact eq ▸ change r input d start first changed

/-- What refusals and changes keep holds after every sequence of inputs. -/
theorem steps_induction
    (change : ∀ r input d, P r → Machine.Change r.machine r.source input d →
      P (r.change input d)) (inputs : List Input) : P (r.steps inputs) :=
  steps_induction_of start refuse (fun r input d h _ => change r input d h) inputs
    fun _ _ => trivial

end

end Run

end DeviceVerification.Sas
