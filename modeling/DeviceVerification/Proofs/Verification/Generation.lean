import DeviceVerification.Proofs.Verification.Trust

/-!
# Generations of runs

A verification may replace the machine of its run while handles to the old one are still in use. The
machine that an operation leaves is either the one that it found, further on, or a new one under the
next generation (`Renewal`). So a run of operations never gives a generation to two machines, and a
generation that was replaced is never current again (`Generations`): an action that carries it is
refused and changes nothing (`perform_act_of_stale`).
-/

namespace DeviceVerification.Sas.Machine

/-- What inputs can make of a machine. -/
inductive Develops (m : Machine) : Machine → Prop where
  | refl : Develops m m
  | change {k : Machine} {source : KeySource} {input : Input} {d : Drawn} (before : Develops m k)
      (change : k.Change source input d) : Develops m d.machine

variable {m k k' : Machine} {source : KeySource} {input : Input} {d : Drawn}

theorem Change.generation_eq (h : m.Change source input d) :
    d.machine.generation = m.generation := by
  cases h <;> rfl

/-- A machine keeps its generation. -/
theorem Develops.generation_eq (h : m.Develops k) : k.generation = m.generation := by
  induction h with
  | refl => rfl
  | change before change ih => exact change.generation_eq.trans ih

theorem Develops.trans (h : m.Develops k) (h' : k.Develops k') : m.Develops k' := by
  induction h' with
  | refl => exact h
  | change before change ih => exact .change ih change

theorem develops_release (m : Machine) : m.Develops m.release := by
  have released : m.Change ⟨[]⟩ .release ⟨m.release, ⟨[]⟩, .idle⟩ := .release
  exact .change .refl released

end DeviceVerification.Sas.Machine

namespace DeviceVerification.Verification

open Progress

variable {a : Answers} {v v' w : Verification} {source : KeySource} {op : Operation} {o : Outcome}
  {turn : Sas.Turn} {effects : List Effect} {content : StartContent}

/-! ## One operation -/

/-- Where the machine of a verification comes from: it is the one from before, further on, or the
one of a new run, which takes the next generation. -/
inductive Renewal (v v' : Verification) : Prop where
  | same (counter : v.nextGeneration ≤ v'.nextGeneration)
      (develops : ∀ m', v'.machine = some m' → ∃ m, v.machine = some m ∧ m.Develops m')
  | fresh {m : Sas.Machine} (counter : v'.nextGeneration = v.nextGeneration + 1)
      (machine : v'.machine = some m) (generation : m.generation = v.nextGeneration)

namespace Renewal

theorem counter_le (h : Renewal v v') : v.nextGeneration ≤ v'.nextGeneration := by
  cases h with
  | same counter => exact counter
  | fresh counter => omega

theorem refl (v : Verification) : Renewal v v :=
  .same (Nat.le_refl _) fun m machine => ⟨m, machine, .refl⟩

theorem of_keeps (counter : v.nextGeneration ≤ v'.nextGeneration) (kept : Keeps v v') :
    Renewal v v' := by
  refine .same counter ?_
  intro m' machine'
  obtain ⟨m, machine, rfl | rfl⟩ := kept m' machine'
  · exact ⟨m', machine, .refl⟩
  · exact ⟨m, machine, m.develops_release⟩

theorem enter (v : Verification) (s : State) : Renewal v (v.enter s) :=
  of_keeps (Nat.le_of_eq (enter_nextGeneration v s).symm) (keeps_enter v s)

/-- What led to the same counter and no other machine than before leaves nothing behind. -/
theorem of_before (h : Renewal w v') (counter : w.nextGeneration = v.nextGeneration)
    (machine : ∀ m, w.machine = some m → v.machine = some m) : Renewal v v' := by
  cases h with
  | same later develops =>
    refine .same (counter ▸ later) ?_
    intro m' machine'
    obtain ⟨m, found, developed⟩ := develops m' machine'
    exact ⟨m, machine m found, developed⟩
  | fresh later machine' generation =>
    exact .fresh (counter ▸ later) machine' (counter ▸ generation)

end Renewal

theorem Adopted.renewal (h : Adopted v content v' effects) : Renewal v v' := by
  cases h with
  | stranger => exact .refl v
  | unagreed =>
    refine .of_keeps ?_ ?_
    · rw [enter_nextGeneration]
      exact Nat.le_succ _
    · exact (keeps_of_machine_eq rfl).trans (keeps_enter _ _)
  | @adopted context m known made =>
    obtain rfl := Sas.Machine.eq_init_of_theirStart made
    refine .fresh ?_ (enter_machine _ _) rfl
    exact enter_nextGeneration _ _

theorem Followed.renewal (h : Followed a v turn v' effects) : Renewal v v' := by
  cases h with
  | proceed => exact .refl v
  | recorded =>
    have counter : (completed v).nextGeneration = v.nextGeneration := by
      simp [completed, release]
    exact .of_keeps (Nat.le_of_eq counter.symm) (keeps_completed v)
  | refused | cancelled => exact .enter v _
  | pending => exact .of_keeps (Nat.le_refl _) (keeps_of_machine_eq rfl)

/-- Every operation keeps the run going or begins a new one. -/
theorem Transition.renewal (t : Transition a v source op o) : Renewal v o.verification := by
  cases t with
  | ended | refused | ignored | keptStart | replayedLate | unsettled => exact .refl v
  | cancels | abort | yield | ready | answeredElsewhere | cancelledByThem | replayedReady
  | replayedCancel | settled =>
    dsimp only
    exact .enter v _
  | doneFirst | replayedDone => exact .of_keeps (Nat.le_refl _) (keeps_of_machine_eq rfl)
  | replayedRun => exact .of_keeps (Nat.le_refl _) (keeps_release v)
  | doneLast => exact (Renewal.enter { v with theirDone := true } .done).of_before rfl fun _ => id
  | start =>
    refine .fresh ?_ (begun_machine v _ _) rfl
    exact enter_nextGeneration _ _
  | turn state machine feeds change followed =>
    have renewal := followed.renewal
    cases renewal with
    | same counter develops =>
      refine .same counter ?_
      intro m' machine'
      obtain ⟨k, found, developed⟩ := develops m' machine'
      obtain rfl := Option.some.inj found
      exact ⟨_, machine, (Sas.Machine.Develops.change .refl change).trans developed⟩
    | fresh counter machine' generation => exact .fresh counter machine' generation
  | @receivedReady sender content effects reply hears request some dismissed =>
    have entered := Renewal.enter
      { chosen content.fromDevice v with methods := commonMethods v.methods content.methods }
      (.ready (commonMethods v.methods content.methods))
    exact entered.of_before rfl fun _ => id
  | lostStart hears state pending higher adopted =>
    exact adopted.renewal.of_before rfl fun _ none => by cases none
  | receivedStart hears state supported met adopted =>
    cases met with
    | known => exact adopted.renewal
    | chosen => exact adopted.renewal.of_before rfl fun _ => id

/-! ## Actions that come too late -/

/-- What an action answers in a run that is not the current one. -/
def staleReply (v : Verification) (action : SasAction) : Reply :=
  if v.held then .waiting
  else if v.state.isRunning then .refused .gone
  else .refused (.invalidState action.name v.state.name)

/-- An action in a run that is not the current one is refused and changes nothing. -/
theorem perform_act_of_stale {generation : Nat}
    (stale : ∀ m, v.machine = some m → m.generation ≠ generation) (a : Answers)
    (action : SasAction) (source : KeySource) :
    perform a (.act generation action) v source = ⟨v, source, [], v.staleReply action⟩ := by
  unfold staleReply
  cases held : v.held with
  | true => exact perform_of_held held a _ source
  | false =>
    unfold perform act
    simp only [held, Bool.false_eq_true, ↓reduceIte, begin_verification]
    cases state : v.state with
    | start method device current =>
      cases machine : v.machine with
      | none => rfl
      | some m =>
        have other : m.generation ≠ generation := stale m machine
        simp only [if_neg other]
        rfl
    | _ =>
      simp only [refuseHere, begin_verification, state]
      rfl

/-! ## Runs -/

/-- An operation replaced the machine that it found. -/
def Record.Replaces (e : Record) (m : Sas.Machine) : Prop :=
  e.before.machine = some m ∧
    ∀ m', e.outcome.verification.machine = some m' → m'.generation ≠ m.generation

/-- A machine that an operation leaves is the one that it found, further on, or has a generation
above those of all machines that were found so far. -/
def Numbered (before : List Record) (e : Record) : Prop :=
  ∀ m', e.outcome.verification.machine = some m' →
    (∃ m, e.before.machine = some m ∧ m.Develops m') ∨
      ∀ c ∈ before ++ [e], ∀ m, c.before.machine = some m → m.generation < m'.generation

/-- What holds of the generations of every run. -/
structure Generations (r : Run) : Prop where
  current : ∀ m, r.verification.machine = some m → m.generation < r.verification.nextGeneration
  found : ∀ e ∈ r.log, ∀ m, e.before.machine = some m →
    m.generation < r.verification.nextGeneration
  replaced : ∀ e ∈ r.log, ∀ m, e.Replaces m → ∀ k, r.verification.machine = some k →
    m.generation < k.generation
  log : Grounded Numbered r.log

namespace Generations

variable {r : Run}

theorem begin (v : Verification) (source : KeySource) (none : v.machine = none) :
    Generations (.begin v source) where
  current m machine := by
    cases none.symm.trans machine
  found e mem := by
    cases mem
  replaced e mem := by
    cases mem
  log := grounded_nil Numbered

/-- An operation that keeps the run going or begins a new one keeps the generations apart. -/
theorem extend (h : Generations r) {op : Operation} {a : Answers} {o : Outcome}
    (renewal : Renewal r.verification o.verification) : Generations (r.extend op a o) := by
  have later : r.verification.nextGeneration ≤ o.verification.nextGeneration := renewal.counter_le
  have met : ∀ e ∈ r.log ++ [⟨r.verification, op, a, o⟩], ∀ m, e.before.machine = some m →
      m.generation < r.verification.nextGeneration := by
    intro e mem m machine
    rcases List.mem_append.1 mem with old | new
    · exact h.found e old m machine
    · obtain rfl := List.mem_singleton.1 new
      exact h.current m machine
  have found : ∀ e ∈ r.log ++ [⟨r.verification, op, a, o⟩], ∀ m, e.before.machine = some m →
      m.generation < o.verification.nextGeneration := by
    intro e mem m machine
    have bound := met e mem m machine
    omega
  cases renewal with
  | same _ develops =>
    refine ⟨?_, found, ?_, grounded_concat h.log ?_⟩
    · intro m' machine'
      obtain ⟨m, machine, developed⟩ := develops m' machine'
      have bound := h.current m machine
      rw [developed.generation_eq]
      exact Nat.lt_of_lt_of_le bound later
    · intro e mem m replaces k' machine'
      obtain ⟨k, machine, developed⟩ := develops k' machine'
      rcases List.mem_append.1 mem with old | new
      · rw [developed.generation_eq]
        exact h.replaced e old m replaces k machine
      · -- The machine that the operation found goes on, so it was not replaced.
        obtain rfl := List.mem_singleton.1 new
        obtain rfl : k = m := Option.some.inj (machine.symm.trans replaces.1)
        exact absurd developed.generation_eq (replaces.2 k' machine')
    · intro m' machine'
      exact .inl (develops m' machine')
  | @fresh m counter machine generation =>
    have only : ∀ m', o.verification.machine = some m' →
        m'.generation = r.verification.nextGeneration := by
      intro m' machine'
      obtain rfl : m = m' := Option.some.inj (machine.symm.trans machine')
      exact generation
    refine ⟨?_, found, ?_, grounded_concat h.log ?_⟩
    · intro m' machine'
      have same := only m' machine'
      show m'.generation < o.verification.nextGeneration
      omega
    · intro e mem k replaces m' machine'
      rw [only m' machine']
      exact met e mem k replaces.1
    · intro m' machine'
      refine .inr ?_
      intro e mem k machine
      rw [only m' machine']
      exact met e mem k machine

theorem steps (h : Generations r) (events : List (Operation × Answers)) :
    Generations (r.steps events) := by
  refine Run.steps_induction (P := Generations) ?_ ?_ h events
  · exact fun r op a h _ => h.extend (.refl r.verification)
  · intro r op a o h _ t
    exact h.extend (t.renewal.of_before (by simp) fun m machine => by simpa using machine)

/-- A machine that was replaced is not the current one, and neither is any other of its
generation. -/
theorem stale (h : Generations r) {e : Record} (mem : e ∈ r.log) {m : Sas.Machine}
    (replaces : e.Replaces m) :
    ∀ k, r.verification.machine = some k → k.generation ≠ m.generation := by
  intro k machine
  have above := h.replaced e mem m replaces k machine
  omega

end Generations

/-- A run that has everything keeps its generations apart. -/
theorem Run.Whole.generations {r : Run} (whole : r.Whole) : Generations r := by
  obtain ⟨own, settings, route, request, source, events, rfl⟩ := whole
  exact (Generations.begin (ofRequest own settings route request) source rfl).steps events

/-- The next generation is above the one of the machine. -/
theorem Reachable.generation_lt {m : Sas.Machine} (reached : Reachable v)
    (machine : v.machine = some m) : m.generation < v.nextGeneration := by
  obtain ⟨r, whole, rfl⟩ := reached
  exact whole.generations.current m machine

end DeviceVerification.Verification
