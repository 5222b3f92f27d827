import DeviceVerification.Proofs.Peers.Conduct

/-!
# The course of a verification

Whatever happens to a verification, it says each kind of step at most once and in one order: ready,
start, acceptance, key, MACs, done, cancellation. `Verification.left` is what a state leaves to be
said. Every transition says a part of that and leaves a part of what comes after it
(`Transition.continues`), so whatever a run has said is followed by what is left
(`steps_in_order`).
-/

namespace DeviceVerification

/-- The kinds of steps in the order of a verification. -/
def StepKind.course : List StepKind := [.ready, .start, .accept, .key, .mac, .done, .cancel]

/-! ## Runs -/

namespace Sas

/-- What a run still has to say, and what ends the verification after it. A side whose own start is
out may lose a race, and then accepts the other start. -/
def State.left : State → List StepKind
  | .ownStart => [.accept, .key, .mac, .done, .cancel]
  | .theirStart => [.accept, .key, .mac, .done, .cancel]
  | .accept _ => [.key, .mac, .done, .cancel]
  | .waitForKeys _ => [.mac, .done, .cancel]
  | .comparison _ _ => [.mac, .done, .cancel]
  | .waitForMacs => [.done, .cancel]

/-- Whatever a run has to say, the verification may be done or cancelled after it. -/
theorem State.ends_sublist_left (s : State) : [StepKind.done, .cancel].Sublist s.left := by
  cases s <;> simp only [left] <;> decide

theorem State.left_of_isComparison {s : State} (h : s.isComparison = true) :
    s.left = [.mac, .done, .cancel] := by
  cases s <;> simp [isComparison] at h ⊢
  rfl

/-- A machine says a part of what its state leaves to be said, and leaves a part of what comes
after it. -/
theorem Machine.Change.sublist_left {m : Machine} {source : KeySource} {input : Input}
    {d : Machine.Drawn} (h : m.Change source input d) :
    (d.turn.outbound.map (·.kind) ++ d.machine.state.left).Sublist m.state.left := by
  cases h with
  | acceptFails | acceptUndrawn | acceptedUnexpected | acceptedUnoffered | keyUnexpected
  | keyMismatched | starterKeyInvalid | macHeld | macJudged | macUnexpected | confirmFails
  | reject | release => exact .refl _
  | accept state | starterKey _ state | accepterKey _ state =>
    rw [state]
    exact .refl _
  | acceptedUndrawn state | accepted state | accepterKeyInvalid _ state =>
    rw [state]
    exact List.sublist_cons_self _ _
  | confirm state =>
    rw [State.left_of_isComparison state]
    exact .refl _

end Sas

namespace Verification

open Progress Peers

variable {a : Answers} {v v' w : Verification} {source : KeySource} {op : Operation} {o : Outcome}
  {turn : Sas.Turn} {effects : List Effect} {content : StartContent} {m : Sas.Machine}

/-! ## What is left -/

/-- What a verification still has to say. A method that runs without a machine can only be
cancelled. -/
def left (v : Verification) : List StepKind :=
  match v.state with
  | .ownRequest => StepKind.course
  | .theirRequest => StepKind.course
  | .ready _ => [.start, .accept, .key, .mac, .done, .cancel]
  | .start _ _ _ => v.machine.elim [.cancel] (·.state.left)
  | .waitForDone _ => [.cancel]
  | _ => []

theorem left_of_isRunning (running : v.state.isRunning = true) (machine : v.machine = some m) :
    v.left = m.state.left := by
  obtain ⟨method, device, generation, state⟩ := State.isRunning_iff.1 running
  simp [left, state, machine]

/-- What is left depends on the states of the verification and of its machine. -/
theorem left_congr (state : v'.state = v.state)
    (machine : v'.machine.map (·.state) = v.machine.map (·.state)) : v'.left = v.left := by
  have same : v'.machine.elim [.cancel] (·.state.left) =
      v.machine.elim [.cancel] (·.state.left) := by
    cases before : v.machine <;> cases after : v'.machine <;> simp_all
  unfold left
  rw [state, same]

/-- Nothing is left at the end. -/
theorem left_of_isTerminal (terminal : v.isTerminal = true) : v.left = [] := by
  unfold isTerminal at terminal
  unfold left
  cases state : v.state <;> simp [state, State.isTerminal] at terminal ⊢

/-- A verification that did not end can be cancelled. -/
theorem cancel_sublist_left (running : v.isTerminal = false) :
    [StepKind.cancel].Sublist v.left := by
  unfold isTerminal at running
  unfold left
  cases state : v.state with
  | start =>
    cases v.machine with
    | none => exact .refl _
    | some m => exact (List.sublist_cons_self _ _).trans m.state.ends_sublist_left
  | _ => simp [state, State.isTerminal, StepKind.course] at running ⊢

/-- A side that has completed its part can at most cancel. -/
theorem left_completed_sublist (v : Verification) :
    (completed v).left.Sublist [StepKind.cancel] := by
  unfold completed
  simp only
  split
  · rw [left_of_isTerminal (enter_isTerminal _ _)]
    exact List.nil_sublist _
  · unfold left
    rw [enter_state]

/-! ## What is said -/

/-- The kinds of the steps that effects hand over. -/
def kindsOf (effects : List Effect) : List StepKind := (stepsOf effects).map (·.kind)

@[simp] theorem kindsOf_append (effects effects' : List Effect) :
    kindsOf (effects ++ effects') = kindsOf effects ++ kindsOf effects' := by
  simp [kindsOf]

theorem Handed.kindsOf_eq {route : Route} {steps : List Step} (h : Handed route steps effects) :
    kindsOf effects = steps.map (·.kind) := by
  rw [kindsOf, stepsOf, h.filterMap_step?]

theorem Dismissed.kindsOf_eq {devices : List String} (h : Dismissed devices effects) :
    kindsOf effects = [] := by
  rw [kindsOf, stepsOf, h.filterMap_step?]
  rfl

/-- What effects say was left before, and so is what is left after them. -/
def Continues (v : Verification) (effects : List Effect) (v' : Verification) : Prop :=
  (kindsOf effects ++ v'.left).Sublist v.left

namespace Continues

/-- Nothing is said, and less is left. -/
theorem of_sublist (less : v'.left.Sublist v.left) : Continues v [] v' := less

theorem of_left_eq (same : v'.left = v.left) : Continues v [] v' := by
  refine of_sublist ?_
  rw [same]

theorem of_terminal (terminal : v'.isTerminal = true) : Continues v [] v' := by
  refine of_sublist ?_
  rw [left_of_isTerminal terminal]
  exact List.nil_sublist _

theorem of_cancel {reason : CancelContent} {isOwn : Bool} {route : Route}
    {failure : Option TransportError} (running : v.isTerminal = false) :
    Continues v [.send route (.cancel reason) failure] (w.enter (.cancelled reason isOwn)) := by
  rw [Continues, left_of_isTerminal (enter_isTerminal _ _)]
  exact cancel_sublist_left running

/-- What is said next comes after what was said before. -/
theorem after {said all : List StepKind} (h : Continues v effects v')
    (before : (said ++ v.left).Sublist all) :
    (said ++ kindsOf effects ++ v'.left).Sublist all := by
  rw [List.append_assoc]
  exact ((List.append_sublist_append_left said).2 h).trans before

end Continues

/-- A start that is put into effect leaves what follows a start. -/
theorem Adopted.continues (h : Adopted w content v' effects) (running : v.isTerminal = false)
    (stranger : w.context? = none → w.left.Sublist v.left)
    (run : (Sas.State.left .theirStart).Sublist v.left) : Continues v effects v' := by
  cases h with
  | stranger unknown => exact .of_sublist (stranger unknown)
  | unagreed => exact .of_cancel running
  | adopted known made =>
    refine .of_sublist ?_
    obtain rfl := Sas.Machine.eq_init_of_theirStart made
    rw [left_of_isRunning (by rw [enter_state]; rfl) (enter_machine _ _)]
    exact run

/-- What a verification makes of a turn is said after the turn. -/
theorem Followed.continues {d : Sas.Machine.Drawn} {input : Sas.Input}
    (h : Followed a { v with machine := some d.machine } d.turn v' effects)
    (state : v.state.isRunning = true) (machine : v.machine = some m)
    (change : m.Change source input d) : Continues v effects v' := by
  have said : (d.turn.outbound.map (·.kind) ++ d.machine.state.left).Sublist v.left := by
    rw [left_of_isRunning state machine]
    exact change.sublist_left
  have still : left { v with machine := some d.machine } = d.machine.state.left :=
    left_of_isRunning (v := { v with machine := some d.machine }) state rfl
  have ending : ∀ {last : List StepKind}, last.Sublist [.done, .cancel] →
      (d.turn.outbound.map (·.kind) ++ last).Sublist v.left := by
    intro last short
    exact ((List.append_sublist_append_left _).2
      (short.trans d.machine.state.ends_sublist_left)).trans said
  cases h with
  | proceed handed =>
    rw [Continues, handed.kindsOf_eq, still]
    exact said
  | pending handed =>
    rw [Continues, kindsOf_append, handed.kindsOf_eq, List.append_assoc]
    exact still ▸ said
  | recorded handed =>
    rw [Continues, kindsOf_append, handed.kindsOf_eq, List.append_assoc]
    exact ending ((left_completed_sublist _).cons_cons _)
  | refused handed | cancelled handed =>
    rw [Continues, kindsOf_append, handed.kindsOf_eq, left_of_isTerminal (enter_isTerminal _ _),
      List.append_nil]
    exact ending (List.sublist_cons_self _ _)

/-- An own start that waits for its answer leaves what follows a start. -/
theorem left_of_ownStartPending (running : v.state.isRunning = true)
    (pending : ownStartPending v = true) : v.left = Sas.State.left .ownStart := by
  unfold ownStartPending at pending
  split at pending
  · rename_i m machine
    obtain ⟨-, state⟩ : m.weStarted = true ∧ m.state = .ownStart := by simpa using pending
    rw [left_of_isRunning running machine, state]
  · cases pending

/-- **Every operation goes on in the order of the steps.** What it says, and what it leaves to be
said, was left before, in that order. -/
theorem Transition.continues (t : Transition a v source op o) :
    Continues v o.effects o.verification := by
  cases t with
  | ended | refused | ignored | keptStart | replayedLate | unsettled | doneFirst | replayedDone =>
    exact .of_left_eq rfl
  | replayedRun =>
    refine .of_left_eq (left_congr rfl ?_)
    show (v.machine.map (·.release)).map _ = _
    rw [Option.map_map]
    rfl
  | abort | yield | answeredElsewhere | cancelledByThem | doneLast | replayedCancel =>
    exact .of_terminal (enter_isTerminal _ _)
  | cancels running => exact .of_cancel running
  | ready state =>
    rw [Continues, left, left, enter_state, state]
    exact .refl _
  | start state =>
    rw [Continues, left_of_isRunning (by rw [begun, enter_state]; rfl) (begun_machine _ _ _), left,
      state]
    exact .refl _
  | turn state machine feeds change followed => exact followed.continues state machine change
  | receivedReady hears state some dismissed =>
    rw [Continues, dismissed.kindsOf_eq, left, left, enter_state, state]
    exact List.sublist_cons_self _ _
  | receivedStart hears state supported met adopted =>
    have running : v.isTerminal = false := by
      rcases state with eq | ⟨methods, eq⟩ <;> rw [isTerminal, eq] <;> rfl
    have run : (Sas.State.left .theirStart).Sublist v.left := by
      unfold left
      rcases state with eq | ⟨methods, eq⟩ <;> rw [eq]
      · exact List.sublist_append_right [_, _] _
      · exact List.sublist_cons_self _ _
    cases met with
    | known => exact adopted.continues running (fun _ => .refl _) run
    | chosen unknown dismissed =>
      rw [Continues, kindsOf_append, dismissed.kindsOf_eq]
      exact adopted.continues running (fun _ => .refl _) run
  | lostStart hears state pending higher adopted =>
    have before := left_of_ownStartPending state pending
    refine adopted.continues (State.isTerminal_of_isRunning state) (fun _ => ?_) ?_
    · rw [before, left]
      obtain ⟨method, device, generation, eq⟩ := State.isRunning_iff.1 state
      simp only [eq]
      decide
    · rw [before]
      exact .refl _
  | replayedReady state =>
    refine .of_sublist ?_
    rw [left, left, enter_state, state]
    exact List.sublist_cons_self _ _
  | settled running =>
    unfold Progress.settled
    split
    · exact .of_terminal (enter_isTerminal _ _)
    · refine .of_sublist ?_
      rw [left, enter_state]
      exact cancel_sublist_left running
    · exact .of_terminal (enter_isTerminal _ _)

/-- **Steps are said in order.** Whatever happens to a verification, each kind of step is handed
over at most once, and in the order of the kinds: nothing follows a cancellation. -/
theorem steps_in_order (own : Identity) (settings : Sas.Settings) (route : Route)
    (request : Request) (source : KeySource) (events : List (Operation × Answers)) :
    (kindsOf ((Run.begin (ofRequest own settings route request) source).steps
      events).effects).Sublist [.ready, .start, .accept, .key, .mac, .done, .cancel] := by
  have course : (kindsOf ((Run.begin (ofRequest own settings route request) source).steps
      events).effects ++ ((Run.begin (ofRequest own settings route request) source).steps
        events).verification.left).Sublist StepKind.course := by
    refine Run.steps_induction
      (P := fun r => (kindsOf r.effects ++ r.verification.left).Sublist StepKind.course)
      ?_ ?_ ?_ events
    · intro r op a said held
      rw [Run.effects_extend, List.append_nil]
      exact said
    · intro r op a outcome said _ t
      have same : (r.verification.counted op).left = r.verification.left :=
        left_congr (counted_state _ _) (congrArg _ (counted_machine _ _))
      rw [Run.effects_extend, kindsOf_append]
      exact t.continues.after (same ▸ said)
    · show ([] ++ left _).Sublist _
      unfold left ofRequest
      cases request.isOwn <;> exact .refl _
  exact (List.sublist_append_left _ _).trans course

end Verification

end DeviceVerification
