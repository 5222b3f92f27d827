import DeviceVerification.Proofs.Peers.Conduct
import DeviceVerification.Proofs.Verification.Frame

/-!
# What a verification says

Only two kinds of steps name the device that sends them, and a verification names its own one:
once as it answers the request, and once as it starts a method. `Transition.speaks` says so, and
what the states have to do with it. As long as the counterpart is not heard, a start is also the
last that a verification says of a run (`Transition.unanswered`).
-/

namespace DeviceVerification.Verification

open Progress Peers

variable {a : Answers} {v v' : Verification} {source : KeySource} {op : Operation} {o : Outcome}
  {turn : Sas.Turn} {effects : List Effect} {content : StartContent} {step : Step}

/-! ## Naming the device -/

/-- What follows a turn sends the steps of the turn, and those that end a run. -/
theorem Followed.stepsOf_cases (h : Followed a v turn v' effects) (mem : step ∈ stepsOf effects) :
    step ∈ turn.outbound ∨ step = .done ∨
      ∃ content, step = .cancel content ∧ v'.state = .cancelled content true := by
  cases h with
  | proceed handed =>
    rw [stepsOf, handed.filterMap_step?] at mem
    exact .inl mem
  | recorded handed =>
    rw [stepsOf_append, stepsOf, handed.filterMap_step?] at mem
    rcases List.mem_append.1 mem with sent | ends
    · exact .inl sent
    · exact .inr (.inl (List.mem_singleton.1 ends))
  | pending handed =>
    rw [stepsOf_append, stepsOf, handed.filterMap_step?] at mem
    rcases List.mem_append.1 mem with sent | ends
    · exact .inl sent
    · cases ends
  | refused handed | cancelled handed =>
    rw [stepsOf_append, stepsOf, handed.filterMap_step?] at mem
    rcases List.mem_append.1 mem with sent | ends
    · exact .inl sent
    · exact .inr (.inr ⟨_, List.mem_singleton.1 ends, enter_state _ _⟩)

/-- Steps that name no device. -/
def Unnamed (effects : List Effect) : Prop := ∀ step ∈ stepsOf effects, step.fromDevice? = none

theorem unnamed_nil : Unnamed [] := by
  intro step mem
  cases mem

theorem unnamed_cancel (route : Route) (reason : CancelContent)
    (failure : Option TransportError) : Unnamed [.send route (.cancel reason) failure] := by
  intro step mem
  obtain rfl := List.mem_singleton.1 mem
  rfl

theorem Dismissed.unnamed {devices : List String} (h : Dismissed devices effects) :
    Unnamed effects := by
  intro step mem
  rw [stepsOf, h.filterMap_step?] at mem
  cases mem

theorem Adopted.unnamed (h : Adopted v content v' effects) : Unnamed effects := by
  cases h with
  | stranger | adopted => exact unnamed_nil
  | unagreed => exact unnamed_cancel _ _ _

theorem Unnamed.append {effects' : List Effect} (h : Unnamed effects) (h' : Unnamed effects') :
    Unnamed (effects ++ effects') := by
  intro step mem
  rw [stepsOf_append] at mem
  exact (List.mem_append.1 mem).elim (h step) (h' step)

/-- What an operation has a verification say of its device. -/
inductive Speaks (v : Verification) (op : Operation) (o : Outcome) : Prop where
  /-- Nothing is said, and a verification that gets ready is told to. -/
  | quiet (unnamed : Unnamed o.effects)
      (ready : ∀ methods, o.verification.state = .ready methods → v.state = .ready methods ∨
        v.state = .ownRequest ∨ ∃ step, op = .replay step)
      (asked : o.verification.state.isRequestPhase = true → v.state = o.verification.state)
  | answers (own : op = .ready) (state : v.state = .theirRequest)
      (entered : o.verification.state = .ready v.methods)
      (sent : ∃ failure, o.effects = [.send v.route (.ready ⟨v.own.device, v.methods⟩) failure])
  | starts (state : ∃ methods, v.state = .ready methods)
      (entered : o.verification.state.isRunning = true)
      (sent : ∃ content failure, content.fromDevice = v.own.device ∧
        o.effects = [.send v.route (.start content) failure])

namespace Speaks

/-- A verification that only changes its state, and not to one of a request that is open. -/
theorem of_enter {s : State} {reply : Reply} {w : Verification} (unnamed : Unnamed effects)
    (ready : ∀ methods, s ≠ .ready methods) (later : s.isRequestPhase = false) :
    Speaks v op ⟨w.enter s, source, effects, reply⟩ := by
  refine .quiet unnamed (fun methods state => ?_) fun asked => ?_
  · exact absurd ((enter_state w s).symm.trans state) (ready methods)
  · rw [enter_state] at asked
    cases later.symm.trans asked

/-- A verification whose state stays the same. -/
theorem of_state_eq {reply : Reply} (unnamed : Unnamed effects) (same : v'.state = v.state) :
    Speaks v op ⟨v', source, effects, reply⟩ :=
  .quiet unnamed (fun _ state => .inl (same.symm.trans state)) fun _ => same.symm

theorem names_own (h : Speaks v op o) (mem : step ∈ stepsOf o.effects) {device : String}
    (named : step.fromDevice? = some device) : device = v.own.device := by
  cases h with
  | quiet unnamed => cases (unnamed step mem).symm.trans named
  | answers _ _ _ sent =>
    obtain ⟨failure, sent⟩ := sent
    rw [sent] at mem
    obtain rfl := List.mem_singleton.1 mem
    exact (Option.some.inj named).symm
  | starts _ _ sent =>
    obtain ⟨content, failure, own, sent⟩ := sent
    rw [sent] at mem
    obtain rfl := List.mem_singleton.1 mem
    exact (Option.some.inj named).symm.trans own

/-- A request that is open was open before, in the same way. -/
theorem state_eq (h : Speaks v op o) (isOpen : o.verification.state.isRequestPhase = true) :
    v.state = o.verification.state := by
  cases h with
  | quiet unnamed ready asked => exact asked isOpen
  | answers _ _ entered =>
    rw [entered] at isOpen
    cases isOpen
  | starts _ entered =>
    cases state : o.verification.state <;>
      simp [state, State.isRequestPhase, State.isRunning] at isOpen entered

/-- Nobody comes to ask who did not. -/
theorem ownRequest (h : Speaks v op o) (state : o.verification.state = .ownRequest) :
    v.state = .ownRequest :=
  (h.state_eq (by rw [state]; rfl)).trans state

end Speaks

theorem Adopted.speaks {choice : List Effect} {reply : Reply} {w : Verification}
    (h : Adopted w content v' effects) (chosen : Unnamed choice) (same : w.state = v.state) :
    Speaks v op ⟨v', source, choice ++ effects, reply⟩ := by
  have unnamed : Unnamed (choice ++ effects) := chosen.append h.unnamed
  cases h with
  | stranger => exact .of_state_eq unnamed same
  | adopted | unagreed => exact .of_enter unnamed (by simp) rfl

theorem Followed.speaks {reply : Reply} (h : Followed a v' turn v effects)
    (silent : ∀ step ∈ turn.outbound, step.fromDevice? = none) (state : v'.state.isRunning = true)
    {w : Verification} (same : v'.state = w.state) :
    Speaks w op ⟨v, source, effects, reply⟩ := by
  have unnamed : Unnamed effects := by
    intro step mem
    rcases h.stepsOf_cases mem with sent | rfl | ⟨content, rfl, -⟩
    · exact silent step sent
    · rfl
    · rfl
  cases h with
  | proceed | pending => exact .of_state_eq unnamed same
  | refused | cancelled => exact .of_enter unnamed (by simp) rfl
  | recorded =>
    refine .of_enter unnamed ?_ ?_
    · intro methods
      split <;> simp
    · split <;> rfl

/-- A verification names its own device as it answers the request and as it starts, and never
else. -/
theorem Transition.speaks (t : Transition a v source op o) : Speaks v op o := by
  cases t with
  | ended | refused | ignored | keptStart | replayedLate | unsettled | doneFirst | replayedDone
  | replayedRun => exact .of_state_eq unnamed_nil rfl
  | cancels => exact .of_enter (unnamed_cancel _ _ _) (by simp) rfl
  | abort | yield | answeredElsewhere | cancelledByThem | doneLast | replayedCancel =>
    exact .of_enter unnamed_nil (by simp) rfl
  | settled =>
    refine .of_enter unnamed_nil ?_ ?_
    · intro methods
      unfold Progress.settled
      split <;> simp
    · unfold Progress.settled
      split <;> rfl
  | ready state => exact .answers rfl state (enter_state _ _) ⟨_, rfl⟩
  | start state offered known =>
    obtain ⟨device, -, rfl⟩ := context?_eq_some_iff.1 known
    exact .starts ⟨_, state⟩ (by simp [begun, State.isRunning]) ⟨_, _, rfl, rfl⟩
  | turn state machine feeds change followed =>
    exact followed.speaks (fun step mem => (At.unnamed_of_change change step mem).1) state rfl
  | receivedReady hears state some dismissed =>
    refine .quiet dismissed.unnamed (fun _ _ => .inr (.inl state)) ?_
    rw [enter_state]
    intro asked
    cases asked
  | receivedStart hears state supported met adopted =>
    cases met with
    | known => exact adopted.speaks unnamed_nil rfl
    | chosen none dismissed => exact adopted.speaks dismissed.unnamed rfl
  | lostStart hears state pending higher adopted => exact adopted.speaks unnamed_nil rfl
  | replayedReady =>
    refine .quiet unnamed_nil (fun _ _ => .inr (.inr ⟨_, rfl⟩)) ?_
    rw [enter_state]
    intro asked
    cases asked

/-- Counting a step says nothing. -/
theorem Speaks.of_counted (h : Speaks (v.counted op) op o) : Speaks v op o := by
  cases h with
  | quiet unnamed ready asked =>
    simp only [counted_state] at ready asked
    exact .quiet unnamed ready asked
  | answers own state entered sent =>
    simp only [counted_state, counted_methods, counted_route, counted_own] at state entered sent
    exact .answers own state entered sent
  | starts state entered sent =>
    simp only [counted_state, counted_route, counted_own] at state entered sent
    exact .starts state entered sent

theorem speaks_perform (a : Answers) (op : Operation) (v : Verification) (source : KeySource) :
    Speaks v op (perform a op v source) := by
  obtain ⟨-, same⟩ | ⟨-, t⟩ := perform_cases a op v source
  · rw [same]
    exact .of_state_eq unnamed_nil rfl
  · exact t.speaks.of_counted

/-- The answer to a request goes out if messages are delivered. -/
theorem effects_ready (delivered : ∀ n, a.delivery n = none) (free : v.held = false)
    (state : v.state = .theirRequest)
    (entered : (perform a .ready v source).verification.state = .ready v.methods) :
    (perform a .ready v source).effects =
      [.send v.route (.ready ⟨v.own.device, v.methods⟩) none] := by
  have eq : perform a .ready v source = (begin v source).ready a := by
    simp only [perform, free, Bool.false_eq_true, ↓reduceIte]
  rw [eq] at entered ⊢
  have asked : (begin v source).verification.state = .theirRequest := state
  unfold Progress.ready at entered ⊢
  dsimp only at entered ⊢
  rw [if_pos asked] at entered ⊢
  by_cases none : (begin v source).verification.methods.isEmpty = true
  · -- Without methods the request is cancelled, and not answered.
    have running : v.isTerminal = false := by simp [isTerminal, state, State.isTerminal]
    obtain ⟨failure, reached⟩ := reaches_cancel (a := a) (p := begin v source)
      ⟨.unknownMethod, "no supported method requested"⟩ running
    have cancelled := congrArg Verification.state reached.verification
    rw [if_pos none] at entered
    rw [enter_state] at cancelled
    split at entered <;> cases cancelled.symm.trans entered
  · rw [if_neg none]
    show [Effect.send (v.enter (.ready v.methods)).route _ (a.delivery _)] = _
    rw [enter_route, delivered]
    rfl

/-! ## Speaking of a run -/

/-- A step of a run starts it. -/
def Starts (step : Step) : Prop := isRunStep step = true → step.kind = .start

/-- The machine, if there is one, waits for the answer to our start. -/
def Unanswered (v : Verification) : Prop := ∀ m, v.machine = some m → m.state = .ownStart

theorem Unanswered.keeps (h : Unanswered v) (kept : Keeps v v') : Unanswered v' := by
  intro m' machine'
  obtain ⟨m, machine, rfl | rfl⟩ := kept m' machine'
  · exact h m' machine
  · exact h m machine

/-- As long as the counterpart is not heard, our own actions lead to our start and no further. -/
theorem Transition.unanswered (t : Transition a v source op o) (isLocal : op.isLocal = true)
    (h : Unanswered v) :
    Unanswered o.verification ∧ ∀ step ∈ stepsOf o.effects, Starts step := by
  cases t with
  | ended | refused => exact ⟨h, nofun⟩
  | yield | ignored | answeredElsewhere | cancelledByThem | receivedReady | receivedStart
  | keptStart | lostStart | doneFirst | doneLast | replayedReady | replayedLate | replayedDone
  | replayedCancel | replayedRun | settled | unsettled => cases isLocal
  | abort => exact ⟨h.keeps (keeps_enter _ _), nofun⟩
  | cancels =>
    refine ⟨h.keeps (keeps_enter _ _), ?_⟩
    intro step mem run
    obtain rfl := List.mem_singleton.1 mem
    cases run
  | ready =>
    refine ⟨h.keeps (keeps_enter _ _), ?_⟩
    intro step mem run
    obtain rfl := List.mem_singleton.1 mem
    cases run
  | @start method methods context =>
    constructor
    · intro m machine
      obtain rfl := Option.some.inj ((begun_machine v method context).symm.trans machine)
      rfl
    · intro step mem _
      obtain rfl := List.mem_singleton.1 mem
      rfl
  | turn running machine feeds change followed =>
    -- Nothing that the user can do in a run is for a machine that waits for its acceptance.
    have waits := h _ machine
    cases feeds with
    | accepted | key | mac => cases isLocal
    | accept => cases change with
      | acceptFails state | acceptUndrawn state | accept state => cases waits.symm.trans state
    | confirm => cases change with
      | confirmFails state | confirm state => simp [waits, Sas.State.isComparison] at state
    | reject => cases change with
      | reject state => simp [waits, Sas.State.isComparison] at state

theorem unanswered_perform (a : Answers) (source : KeySource) (isLocal : op.isLocal = true)
    (h : Unanswered v) :
    Unanswered (perform a op v source).verification ∧
      ∀ step ∈ stepsOf (perform a op v source).effects, Starts step := by
  obtain ⟨-, same⟩ | ⟨-, t⟩ := perform_cases a op v source
  · rw [same]
    exact ⟨h, nofun⟩
  · exact t.unanswered isLocal (h.keeps (keeps_of_machine_eq (counted_machine v op)))

end DeviceVerification.Verification
