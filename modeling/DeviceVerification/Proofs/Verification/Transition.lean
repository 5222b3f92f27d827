import DeviceVerification.Proofs.Sas.Change
import DeviceVerification.Proofs.Verification.Follow

/-!
# What an operation changes

`Transition` lists everything that an operation can do to a verification, each case with its guard
and its effects. `transition_of_perform` is the only place where the handlers of a verification are
opened, and the invariants of its runs go by cases on it. An incoming step is counted before
anything else, so a transition starts from the verification that has counted it.
-/

namespace DeviceVerification.Verification

open Progress

namespace State

/-- Whether a method runs. -/
def isRunning : State → Bool
  | .start _ _ _ => true
  | _ => false

/-- Whether a kind of step is expected. -/
def expects : State → StepKind → Bool
  | _, .cancel => true
  | .ownRequest, kind => kind == .ready || kind == .start
  | .ready _, kind => kind == .start
  | .start _ _ _, kind => kind != .ready
  | .waitForDone _, kind => kind == .done
  | _, _ => false

theorem isRunning_iff {s : State} :
    s.isRunning = true ↔ ∃ method device generation, s = .start method device generation := by
  cases s <;> simp [isRunning]

theorem isTerminal_of_isRunning {s : State} (h : s.isRunning = true) : s.isTerminal = false := by
  cases s <;> simp [isRunning, isTerminal] at h ⊢

end State

/-- Whether an operation is an action that can be refused. -/
def Operation.isAction : Operation → Bool
  | .ready => true
  | .start _ => true
  | .act _ _ => true
  | _ => false

/-- Whether an operation is an action of the user, the service or the clock. -/
def Operation.isLocal : Operation → Bool
  | .ready => true
  | .start _ => true
  | .act _ _ => true
  | .cancel _ => true
  | .abort _ => true
  | _ => false

/-- The verification that has counted an incoming step. -/
def counted (v : Verification) : Operation → Verification
  | .receive _ _ => if v.isTerminal then v else { v with activity := v.activity + 1 }
  | _ => v

section

variable (v : Verification) (op : Operation)

/-- Counting changes the count and nothing else. -/
theorem exists_counted : ∃ n, v.counted op = { v with activity := n } := by
  unfold counted
  split
  · split
    · exact ⟨v.activity, rfl⟩
    · exact ⟨v.activity + 1, rfl⟩
  · exact ⟨v.activity, rfl⟩

@[simp] theorem counted_state : (v.counted op).state = v.state := by
  obtain ⟨n, same⟩ := exists_counted v op
  rw [same]

@[simp] theorem counted_own : (v.counted op).own = v.own := by
  obtain ⟨n, same⟩ := exists_counted v op
  rw [same]

@[simp] theorem counted_request : (v.counted op).request = v.request := by
  obtain ⟨n, same⟩ := exists_counted v op
  rw [same]

@[simp] theorem counted_settings : (v.counted op).settings = v.settings := by
  obtain ⟨n, same⟩ := exists_counted v op
  rw [same]

@[simp] theorem counted_route : (v.counted op).route = v.route := by
  obtain ⟨n, same⟩ := exists_counted v op
  rw [same]

@[simp] theorem counted_theirDevice : (v.counted op).theirDevice = v.theirDevice := by
  obtain ⟨n, same⟩ := exists_counted v op
  rw [same]

@[simp] theorem counted_methods : (v.counted op).methods = v.methods := by
  obtain ⟨n, same⟩ := exists_counted v op
  rw [same]

@[simp] theorem counted_machine : (v.counted op).machine = v.machine := by
  obtain ⟨n, same⟩ := exists_counted v op
  rw [same]

@[simp] theorem counted_nextGeneration : (v.counted op).nextGeneration = v.nextGeneration := by
  obtain ⟨n, same⟩ := exists_counted v op
  rw [same]

@[simp] theorem counted_ownDone : (v.counted op).ownDone = v.ownDone := by
  obtain ⟨n, same⟩ := exists_counted v op
  rw [same]

@[simp] theorem counted_theirDone : (v.counted op).theirDone = v.theirDone := by
  obtain ⟨n, same⟩ := exists_counted v op
  rw [same]

@[simp] theorem counted_sasLost : (v.counted op).sasLost = v.sasLost := by
  obtain ⟨n, same⟩ := exists_counted v op
  rw [same]

@[simp] theorem counted_held : (v.counted op).held = v.held := by
  obtain ⟨n, same⟩ := exists_counted v op
  rw [same]

end

/-! ## The cases -/

/-- A step of the counterpart is taken: it is neither too late nor stray, and no part of a run that
was lost. -/
structure Hears (v : Verification) (sender : Option String) (step : Step) : Prop where
  near : isStray v sender step = false
  kept : (v.sasLost && isRunStep step) = false

/-- The input that an operation is for the machine of a run. -/
inductive Feeds (a : Answers) (v : Verification) (generation : Nat) :
    Operation → Sas.Input → Prop where
  | accept : Feeds a v generation (.act generation .accept) .accept
  | confirm {own theirs : List VerifiableKey} (read : bothKeys a v = .ok (own, theirs)) :
      Feeds a v generation (.act generation .confirm) (.confirm own theirs)
  | reject : Feeds a v generation (.act generation .reject) .reject
  | accepted {sender : Option String} {content : AcceptContent}
      (hears : v.Hears sender (.accept content)) :
      Feeds a v generation (.receive sender (.accept content)) (.accepted content)
  | key {sender : Option String} {content : KeyContent} (hears : v.Hears sender (.key content)) :
      Feeds a v generation (.receive sender (.key content)) (.key content)
  | mac {sender : Option String} {content : MacContent} {theirs : List VerifiableKey}
      (hears : v.Hears sender (.mac content)) (read : theirKeys a v = .ok theirs) :
      Feeds a v generation (.receive sender (.mac content)) (.mac content theirs)

/-- Why an operation has a running verification cancelled. -/
inductive Cancels (a : Answers) (v : Verification) : Operation → CancelContent → Prop where
  | wanted {content : CancelContent} : Cancels a v (.cancel content) content
  | unready (state : v.state = .theirRequest) (none : v.methods = []) :
      Cancels a v .ready ⟨.unknownMethod, "no supported method requested"⟩
  | readyUnsupported {sender : Option String} {content : ReadyContent}
      (hears : v.Hears sender (.ready content)) (state : v.state = .ownRequest)
      (none : commonMethods v.methods content.methods = []) :
      Cancels a v (.receive sender (.ready content))
        ⟨.unknownMethod, "no common verification method"⟩
  | startUnsupported {sender : Option String} {content : StartContent}
      (hears : v.Hears sender (.start content))
      (state : v.state = .ownRequest ∨ ∃ methods, v.state = .ready methods)
      (unsupported : content.method ∉ v.methods) :
      Cancels a v (.receive sender (.start content))
        ⟨.unknownMethod, "unsupported method " ++ content.method.name⟩
  | secondStart {sender : Option String} {content : StartContent}
      (hears : v.Hears sender (.start content)) (state : v.state.isRunning = true)
      (answered : ownStartPending v = false) :
      Cancels a v (.receive sender (.start content)) (Progress.unexpected "start" v.state)
  | runless {sender : Option String} {step : Step} (hears : v.Hears sender step)
      (state : v.state.isRunning = true) (machine : v.machine = none)
      (kind : step.kind = .accept ∨ step.kind = .key ∨ step.kind = .mac) :
      Cancels a v (.receive sender step) (Progress.unexpected step.name v.state)
  | unreadable {sender : Option String} {content : MacContent} {e : TrustError}
      (hears : v.Hears sender (.mac content)) (state : v.state.isRunning = true)
      (unread : theirKeys a v = .error e) :
      Cancels a v (.receive sender (.mac content)) ⟨.user, "failed to read keys: " ++ e.message⟩
  | unexpected {sender : Option String} {step : Step} (hears : v.Hears sender step)
      (surprise : v.state.expects step.kind = false)
      (kept : step.kind = .done → v.sasLost = false) :
      Cancels a v (.receive sender step) (Progress.unexpected step.name v.state)

/-- What putting the counterpart's start into effect does. -/
inductive Adopted (v : Verification) (content : StartContent) :
    Verification → List Effect → Prop where
  | stranger (unknown : v.context? = none) : Adopted v content v []
  | adopted {context : Sas.Context} {m : Sas.Machine} (known : v.context? = some context)
      (made : Sas.Machine.theirStart v.nextGeneration context v.settings content = .ok m) :
      Adopted v content
        ({ v with nextGeneration := v.nextGeneration + 1, machine := some m }.enter
          (.start content.method content.fromDevice v.nextGeneration)) []
  | unagreed {context : Sas.Context} {reason : CancelContent} {failure : Option TransportError}
      (known : v.context? = some context)
      (made : Sas.Machine.theirStart v.nextGeneration context v.settings content = .error reason) :
      Adopted v content
        ({ v with nextGeneration := v.nextGeneration + 1 }.enter (.cancelled reason true))
        [.send v.route (.cancel reason) failure]

/-- The verification once we started a method. -/
def begun (v : Verification) (method : Method) (context : Sas.Context) : Verification :=
  { v with
    nextGeneration := v.nextGeneration + 1
    machine := some (.ownStart v.nextGeneration context v.settings) }.enter
      (.start method v.own.device v.nextGeneration)

theorem begun_machine (v : Verification) (method : Method) (context : Sas.Context) :
    (v.begun method context).machine = some (.ownStart v.nextGeneration context v.settings) := by
  unfold begun
  rw [enter_machine]
  rfl

/-- The verification once the device of the counterpart is known, and what choosing it takes. -/
inductive Met (v : Verification) (device : String) : Verification → List Effect → Prop where
  | known (h : v.theirDevice.isSome) : Met v device v []
  | chosen {effects : List Effect} (h : v.theirDevice = none)
      (dismissed : Dismissed (v.route.others device) effects) :
      Met v device (chosen device v) effects

/-- What an operation does to a verification that is not held. -/
inductive Transition (a : Answers) (v : Verification) (source : KeySource) :
    Operation → Outcome → Prop where
  /-- A terminal state is never left. -/
  | ended {op : Operation} {reply : Reply} (terminal : v.isTerminal = true) :
      Transition a v source op ⟨v, source, [], reply⟩
  | refused {op : Operation} {e : ActionError} (action : op.isAction = true) :
      Transition a v source op ⟨v, source, [], .refused e⟩
  | cancels {op : Operation} {reason : CancelContent} {failure : Option TransportError}
      {reply : Reply} (running : v.isTerminal = false) (why : Cancels a v op reason) :
      Transition a v source op ⟨v.enter (.cancelled reason true), source,
        [.send v.route (.cancel reason) failure], reply⟩
  | abort {content : CancelContent} {reply : Reply} (running : v.isTerminal = false) :
      Transition a v source (.abort content)
        ⟨v.enter (.cancelled content true), source, [], reply⟩
  | yield {reply : Reply} (running : v.isTerminal = false) :
      Transition a v source .yieldToOtherDevice ⟨v.enter .acceptedByOtherDevice, source, [], reply⟩
  | ready {failure : Option TransportError} {reply : Reply} (state : v.state = .theirRequest)
      (some : v.methods ≠ []) :
      Transition a v source .ready ⟨v.enter (.ready v.methods), source,
        [.send v.route (.ready ⟨v.own.device, v.methods⟩) failure], reply⟩
  | start {method : Method} {methods : List Method} {context : Sas.Context}
      {failure : Option TransportError} {reply : Reply} (state : v.state = .ready methods)
      (offered : method ∈ methods) (known : v.context? = some context) :
      Transition a v source (.start method) ⟨v.begun method context, source,
        [.send v.route (.start (v.settings.startContent context.own.device)) failure], reply⟩
  /-- The machine of the run takes an input, and its turn is followed. -/
  | turn {op : Operation} {m : Sas.Machine} {input : Sas.Input} {d : Sas.Machine.Drawn}
      {v' : Verification} {effects : List Effect} {reply : Reply}
      (state : v.state.isRunning = true) (machine : v.machine = some m)
      (feeds : Feeds a v m.generation op input) (change : m.Change source input d)
      (followed : Followed a { v with machine := some d.machine } d.turn v' effects) :
      Transition a v source op ⟨v', d.source, effects, reply⟩
  | ignored {sender : Option String} {step : Step} {reply : Reply}
      (running : v.isTerminal = false) (deaf : ¬v.Hears sender step) :
      Transition a v source (.receive sender step) ⟨v, source, [], reply⟩
  | answeredElsewhere {sender : Option String} {content : CancelContent} {reply : Reply}
      (hears : v.Hears sender (.cancel content)) (state : v.state = .theirRequest)
      (code : content.code = .accepted) :
      Transition a v source (.receive sender (.cancel content))
        ⟨v.enter .acceptedByOtherDevice, source, [], reply⟩
  | cancelledByThem {sender : Option String} {content : CancelContent} {reply : Reply}
      (running : v.isTerminal = false) (hears : v.Hears sender (.cancel content))
      (other : v.state = .theirRequest → content.code ≠ .accepted) :
      Transition a v source (.receive sender (.cancel content))
        ⟨v.enter (.cancelled content false), source, [], reply⟩
  | receivedReady {sender : Option String} {content : ReadyContent} {effects : List Effect}
      {reply : Reply} (hears : v.Hears sender (.ready content)) (state : v.state = .ownRequest)
      (some : commonMethods v.methods content.methods ≠ [])
      (dismissed : Dismissed (v.route.others content.fromDevice) effects) :
      Transition a v source (.receive sender (.ready content))
        ⟨{ chosen content.fromDevice v with
            methods := commonMethods v.methods content.methods }.enter
            (.ready (commonMethods v.methods content.methods)), source, effects, reply⟩
  | receivedStart {sender : Option String} {content : StartContent} {w v' : Verification}
      {choice effects : List Effect} {reply : Reply} (hears : v.Hears sender (.start content))
      (state : v.state = .ownRequest ∨ ∃ methods, v.state = .ready methods)
      (supported : content.method ∈ v.methods) (met : Met v content.fromDevice w choice)
      (adopted : Adopted w content v' effects) :
      Transition a v source (.receive sender (.start content))
        ⟨v', source, choice ++ effects, reply⟩
  /-- Both sides sent a start, and ours stays in effect. -/
  | keptStart {sender : Option String} {content : StartContent} {reply : Reply}
      (hears : v.Hears sender (.start content)) (state : v.state.isRunning = true)
      (pending : ownStartPending v = true)
      (lower : v.own.before ⟨v.theirUser, content.fromDevice⟩ = true) :
      Transition a v source (.receive sender (.start content)) ⟨v, source, [], reply⟩
  /-- Both sides sent a start, and ours gives way. -/
  | lostStart {sender : Option String} {content : StartContent} {v' : Verification}
      {effects : List Effect} {reply : Reply} (hears : v.Hears sender (.start content))
      (state : v.state.isRunning = true) (pending : ownStartPending v = true)
      (higher : v.own.before ⟨v.theirUser, content.fromDevice⟩ = false)
      (adopted : Adopted { v with machine := none } content v' effects) :
      Transition a v source (.receive sender (.start content)) ⟨v', source, effects, reply⟩
  /-- The counterpart is done before we are, or our progress is not known. -/
  | doneFirst {sender : Option String} {reply : Reply} (hears : v.Hears sender .done)
      (state : v.state.isRunning = true ∨ v.state.expects .done = false ∧ v.sasLost = true)
      (running : v.isTerminal = false) :
      Transition a v source (.receive sender .done)
        ⟨{ v with theirDone := true }, source, [], reply⟩
  | doneLast {sender : Option String} {isOwn : Bool} {reply : Reply}
      (hears : v.Hears sender .done) (state : v.state = .waitForDone isOwn) :
      Transition a v source (.receive sender .done)
        ⟨{ v with theirDone := true }.enter .done, source, [], reply⟩
  | replayedReady {content : ReadyContent} {reply : Reply} (state : v.state = .theirRequest) :
      Transition a v source (.replay (.ready content))
        ⟨v.enter (.ready (commonMethods v.methods content.methods)), source, [], reply⟩
  | replayedLate {content : ReadyContent} {reply : Reply} (running : v.isTerminal = false)
      (state : v.state ≠ .theirRequest) :
      Transition a v source (.replay (.ready content)) ⟨v, source, [], reply⟩
  | replayedDone {reply : Reply} (running : v.isTerminal = false) :
      Transition a v source (.replay .done) ⟨{ v with ownDone := true }, source, [], reply⟩
  | replayedCancel {content : CancelContent} {reply : Reply} (running : v.isTerminal = false) :
      Transition a v source (.replay (.cancel content))
        ⟨v.enter (.cancelled content true), source, [], reply⟩
  | replayedRun {step : Step} {reply : Reply} (running : v.isTerminal = false)
      (run : isRunStep step = true) :
      Transition a v source (.replay step)
        ⟨{ v.release with sasLost := true }, source, [], reply⟩
  | settled {reply : Reply} (running : v.isTerminal = false) (lost : v.sasLost = true) :
      Transition a v source .finishReplay
        ⟨v.enter (Progress.settled v.ownDone v.theirDone), source, [], reply⟩
  | unsettled {reply : Reply} (kept : v.sasLost = false) :
      Transition a v source .finishReplay ⟨v, source, [], reply⟩

/-! ## Every operation is one of the cases -/

variable {a : Answers} {v w : Verification} {source : KeySource} {p : Progress} {op : Operation}
  {effects : List Effect}

/-- An operation ends where its parts lead, whatever it answers. -/
theorem transition_of_reaches {first : Verification} {rest : KeySource}
    (h : Reaches (begin first rest) p w effects) {reply : Reply}
    (t : Transition a v source op ⟨w, rest, effects, reply⟩) :
    Transition a v source op ⟨p.verification, p.source, p.effects, reply⟩ := by
  rw [h.verification, h.source, h.effects]
  exact t

/-- Our own cancellation ends a running verification. -/
theorem transition_of_cancels {reason : CancelContent} (running : v.isTerminal = false)
    (why : Cancels a v op reason) (reply : Reply) :
    Transition a v source op ⟨((begin v source).cancel a reason).verification,
      ((begin v source).cancel a reason).source, ((begin v source).cancel a reason).effects,
      reply⟩ := by
  obtain ⟨failure, reached⟩ := reaches_cancel (a := a) (p := begin v source) reason running
  exact transition_of_reaches reached (.cancels running why)

theorem transition_of_ready : Transition a v source .ready ((begin v source).ready a) := by
  unfold Progress.ready
  simp only
  split
  · rename_i state
    change v.state = .theirRequest at state
    have running : v.isTerminal = false := by simp [isTerminal, state, State.isTerminal]
    split
    · rename_i none
      have why : Cancels a v .ready ⟨.unknownMethod, "no supported method requested"⟩ :=
        .unready state (List.isEmpty_iff.1 none)
      split
      · exact transition_of_cancels running why _
      · exact transition_of_cancels running why _
    · rename_i some
      change ¬v.methods.isEmpty = true at some
      obtain ⟨failure, sent⟩ := reaches_send a (.ready ⟨v.own.device, v.methods⟩)
        ((begin v source).enter (.ready v.methods))
      have reached := ((Reaches.refl (begin v source)).update (·.enter (.ready v.methods))).trans
        sent
      simp only [Progress.enter, update, enter_route, List.nil_append] at reached
      exact transition_of_reaches reached (.ready state (by simpa using some))
  · exact .refused rfl

theorem transition_of_start (method : Method) :
    Transition a v source (.start method) ((begin v source).start a method) := by
  unfold Progress.start
  simp only
  split
  · rename_i methods state
    change v.state = .ready methods at state
    split
    · rename_i offered
      split
      · exact .refused rfl
      · rename_i context known
        change v.context? = some context at known
        obtain ⟨failure, sent⟩ := reaches_send a
          (.start (v.settings.startContent context.own.device))
          ((begin v source).update fun v => v.begun method context)
        have reached := ((Reaches.refl (begin v source)).update (·.begun method context)).trans sent
        have route : (v.begun method context).route = v.route := by simp [begun]
        simp only [update, begin, route, List.nil_append] at reached
        exact transition_of_reaches reached (.start state (by simpa using offered) known)
    · exact .refused rfl
  · exact .refused rfl

/-- A turn of the machine that runs. -/
theorem transition_of_run {m : Sas.Machine} {input : Sas.Input} {d : Sas.Machine.Drawn}
    (state : v.state.isRunning = true) (machine : v.machine = some m)
    (feeds : Feeds a v m.generation op input) (change : m.Change source input d) (reply : Reply) :
    Transition a v source op ⟨((begin v source).runDrawn a d).verification,
      ((begin v source).runDrawn a d).source, ((begin v source).runDrawn a d).effects, reply⟩ := by
  obtain ⟨w, effects, reached, followed⟩ := reaches_follow a d.turn
    (begin { v with machine := some d.machine } d.source) (State.isTerminal_of_isRunning state)
  exact transition_of_reaches reached (.turn state machine feeds change followed)

/-! ### Actions in a run -/

theorem transition_of_act (generation : Nat) (action : SasAction) :
    Transition a v source (.act generation action)
      ((begin v source).act a generation action) := by
  unfold Progress.act
  split
  · rename_i m state machine
    change v.machine = some m at machine
    have running : v.state.isRunning = true := State.isRunning_iff.2 ⟨_, _, _, state⟩
    split
    · rename_i same
      subst same
      split
      · unfold acceptStart
        split
        · rename_i d accepted
          exact transition_of_run running machine .accept (Sas.Machine.change_of_accept accepted) _
        · exact .refused rfl
      · unfold confirmCodes
        split
        · exact .refused rfl
        · rename_i own theirs read
          split
          · rename_i turn confirmed
            exact transition_of_run (d := ⟨turn.1, source, turn.2⟩) running machine (.confirm read)
              (Sas.Machine.change_of_confirm confirmed) _
          · exact .refused rfl
      · unfold rejectCodes
        split
        · rename_i turn rejected
          have same : (begin v source).follow a turn =
              (begin v source).runDrawn a ⟨m, source, turn⟩ := by
            show _ = (begin { v with machine := some m } source).follow a turn
            rw [← machine]
          rw [same]
          exact transition_of_run running machine .reject (Sas.Machine.change_of_reject rejected) _
        · exact .refused rfl
    · exact .refused rfl
  · exact .refused rfl
  · exact .refused rfl

/-! ### Steps of the counterpart -/

/-- What becomes of the counterpart's start. -/
theorem reaches_adopt (a : Answers) (content : StartContent) (p : Progress)
    (running : p.verification.isTerminal = false) :
    ∃ w effects, Reaches p (p.adopt a content) w effects ∧
      Adopted p.verification content w effects := by
  unfold adopt
  split
  · rename_i unknown
    exact ⟨_, _, .refl p, .stranger unknown⟩
  · rename_i context known
    simp only
    split
    · rename_i m made
      exact ⟨_, [], ⟨rfl, rfl, (List.append_nil _).symm⟩, .adopted known made⟩
    · rename_i reason made
      obtain ⟨failure, reached⟩ := reaches_cancel (a := a)
        (p := p.update fun v => { v with nextGeneration := v.nextGeneration + 1 }) reason running
      exact ⟨_, _, ⟨reached.verification, reached.source, reached.effects⟩, .unagreed known made⟩

theorem transition_of_receivedStart {sender : Option String} {content : StartContent}
    (running : v.isTerminal = false) (hears : v.Hears sender (.start content))
    (state : v.state = .ownRequest ∨ ∃ methods, v.state = .ready methods) (reply : Reply) :
    Transition a v source (.receive sender (.start content))
      ⟨((begin v source).receiveStart a content).verification,
        ((begin v source).receiveStart a content).source,
        ((begin v source).receiveStart a content).effects, reply⟩ := by
  unfold receiveStart
  split
  · rename_i supported
    simp only
    split
    · rename_i unknown
      obtain ⟨choice, chose, dismissed⟩ := reaches_choose a content.fromDevice (begin v source)
      obtain ⟨w, effects, reached, adopted⟩ := reaches_adopt a content
        ((begin v source).choose a content.fromDevice) (by rw [chose.verification]; exact running)
      rw [chose.verification] at adopted
      exact transition_of_reaches (chose.trans reached) (.receivedStart hears state
        (by simpa using supported) (.chosen (by simpa using unknown) dismissed) adopted)
    · rename_i known
      obtain ⟨w, effects, reached, adopted⟩ := reaches_adopt a content (begin v source) running
      exact transition_of_reaches reached (.receivedStart hears state (by simpa using supported)
        (.known (by simpa [Option.isSome_iff_ne_none] using known)) adopted)
  · rename_i unsupported
    exact transition_of_cancels running
      (.startUnsupported hears state (by simpa using unsupported)) _

theorem transition_of_secondStart {sender : Option String} {content : StartContent}
    (hears : v.Hears sender (.start content)) (state : v.state.isRunning = true) (reply : Reply) :
    Transition a v source (.receive sender (.start content))
      ⟨((begin v source).receiveSecondStart a content).verification,
        ((begin v source).receiveSecondStart a content).source,
        ((begin v source).receiveSecondStart a content).effects, reply⟩ := by
  have running : v.isTerminal = false := State.isTerminal_of_isRunning state
  unfold receiveSecondStart
  simp only
  split
  · rename_i pending
    split
    · rename_i lower
      exact .keptStart hears state pending lower
    · rename_i higher
      obtain ⟨w, effects, reached, adopted⟩ := reaches_adopt a content
        (begin { v with machine := none } source) running
      exact transition_of_reaches reached
        (.lostStart hears state pending (by simpa using higher) adopted)
  · rename_i answered
    exact transition_of_cancels running (.secondStart hears state (by simpa using answered)) _

theorem transition_of_receivedReady {sender : Option String} {content : ReadyContent}
    (hears : v.Hears sender (.ready content)) (state : v.state = .ownRequest) (reply : Reply) :
    Transition a v source (.receive sender (.ready content))
      ⟨((begin v source).receiveReady a content).verification,
        ((begin v source).receiveReady a content).source,
        ((begin v source).receiveReady a content).effects, reply⟩ := by
  have running : v.isTerminal = false := by simp [isTerminal, state, State.isTerminal]
  unfold receiveReady
  simp only
  split
  · rename_i none
    exact transition_of_cancels running (.readyUnsupported hears state (by simpa using none)) _
  · rename_i some
    obtain ⟨effects, chose, dismissed⟩ := reaches_choose a content.fromDevice (begin v source)
    have methods := chose.update fun w =>
      { w with methods := commonMethods v.methods content.methods }
    have reached := methods.update
      (·.enter (.ready (commonMethods v.methods content.methods)))
    exact transition_of_reaches reached
      (.receivedReady hears state (by simpa using some) dismissed)

theorem transition_of_receivedMac {sender : Option String} {content : MacContent}
    (hears : v.Hears sender (.mac content)) (state : v.state.isRunning = true) (reply : Reply) :
    Transition a v source (.receive sender (.mac content))
      ⟨((begin v source).receiveMac a content).verification,
        ((begin v source).receiveMac a content).source,
        ((begin v source).receiveMac a content).effects, reply⟩ := by
  have running : v.isTerminal = false := State.isTerminal_of_isRunning state
  unfold receiveMac
  split
  · rename_i e unread
    exact transition_of_cancels running (.unreadable hears state unread) _
  · rename_i keys read
    unfold withMachine
    split
    · rename_i m machine
      exact transition_of_run state machine (.mac hears read)
        (Sas.Machine.change_of_handleMac content keys) _
    · rename_i none
      exact transition_of_cancels running (.runless hears state none (by simp [Step.kind])) _

theorem transition_of_receivedCancel {sender : Option String} {content : CancelContent}
    (running : v.isTerminal = false) (hears : v.Hears sender (.cancel content)) (reply : Reply) :
    Transition a v source (.receive sender (.cancel content))
      ⟨((begin v source).receiveCancel content).verification,
        ((begin v source).receiveCancel content).source,
        ((begin v source).receiveCancel content).effects, reply⟩ := by
  unfold receiveCancel
  split
  · rename_i elsewhere
    exact .answeredElsewhere hears elsewhere.1 elsewhere.2
  · rename_i other
    refine .cancelledByThem running hears fun state code => other ⟨state, code⟩

/-- A step that the state does not expect has the verification cancelled. -/
theorem apply_of_surprise {step : Step} (surprise : v.state.expects step.kind = false)
    (kept : step.kind = .done → v.sasLost = false) :
    (begin v source).apply a step =
      (begin v source).cancel a (Progress.unexpected step.name v.state) := by
  unfold apply
  simp only [begin_verification]
  cases step <;> cases state : v.state <;>
    simp_all [State.expects, Step.kind, Step.name, StepKind.name]

/-- A step that the run expects. -/
theorem transition_of_runStep {sender : Option String} {step : Step}
    (hears : v.Hears sender step) (state : v.state.isRunning = true) (reply : Reply)
    (expected : step.kind ≠ .ready) :
    Transition a v source (.receive sender step)
      ⟨((begin v source).apply a step).verification, ((begin v source).apply a step).source,
        ((begin v source).apply a step).effects, reply⟩ := by
  have running : v.isTerminal = false := State.isTerminal_of_isRunning state
  obtain ⟨method, device, generation, eq⟩ := State.isRunning_iff.1 state
  unfold apply
  simp only [begin_verification, eq]
  cases step with
  | ready content => simp [Step.kind] at expected
  | start content => exact transition_of_secondStart hears state reply
  | mac content => exact transition_of_receivedMac hears state reply
  | cancel content => exact transition_of_receivedCancel running hears reply
  | done => exact .doneFirst hears (.inl state) running
  | accept content =>
    simp only [withMachine]
    split
    · rename_i m machine
      exact transition_of_run state machine (.accepted hears)
        (Sas.Machine.change_of_handleAccept content) _
    · rename_i none
      exact transition_of_cancels running (.runless hears state none (by simp [Step.kind])) _
  | key content =>
    simp only [withMachine]
    split
    · rename_i m machine
      exact transition_of_run state machine (.key hears)
        (Sas.Machine.change_of_handleKey content) _
    · rename_i none
      exact transition_of_cancels running (.runless hears state none (by simp [Step.kind])) _

/-- A step that is taken. -/
theorem transition_of_apply {sender : Option String} {step : Step}
    (running : v.isTerminal = false) (hears : v.Hears sender step) (reply : Reply) :
    Transition a v source (.receive sender step)
      ⟨((begin v source).apply a step).verification, ((begin v source).apply a step).source,
        ((begin v source).apply a step).effects, reply⟩ := by
  cases expected : v.state.expects step.kind with
  | false =>
    by_cases lost : step = .done ∧ v.sasLost = true
    · obtain ⟨rfl, lost⟩ := lost
      have late : (begin v source).apply a .done =
          (begin v source).update fun v => { v with theirDone := true } := by
        unfold apply
        simp only [begin_verification]
        cases state : v.state <;> simp_all [State.expects, Step.kind]
      rw [late]
      exact .doneFirst hears (.inr ⟨expected, lost⟩) running
    · have kept : step.kind = .done → v.sasLost = false := by
        intro kind
        cases step <;> simp_all [Step.kind]
      rw [apply_of_surprise expected kept]
      exact transition_of_cancels running (.unexpected hears expected kept) reply
  | true =>
    cases state : v.state with
    | start method device generation =>
      refine transition_of_runStep hears (State.isRunning_iff.2 ⟨_, _, _, state⟩) reply ?_
      rintro kind
      simp [state, kind, State.expects] at expected
    | ownRequest =>
      unfold apply
      simp only [begin_verification, state]
      cases step with
      | ready content => exact transition_of_receivedReady hears state reply
      | start content => exact transition_of_receivedStart running hears (.inl state) reply
      | cancel content => exact transition_of_receivedCancel running hears reply
      | _ => simp [state, Step.kind, State.expects] at expected
    | ready methods =>
      unfold apply
      simp only [begin_verification, state]
      cases step with
      | start content =>
        exact transition_of_receivedStart running hears (.inr ⟨methods, state⟩) reply
      | cancel content => exact transition_of_receivedCancel running hears reply
      | _ => simp [state, Step.kind, State.expects] at expected
    | waitForDone isOwn =>
      unfold apply
      simp only [begin_verification, state]
      cases step with
      | done => exact .doneLast hears state
      | cancel content => exact transition_of_receivedCancel running hears reply
      | _ => simp [state, Step.kind, State.expects] at expected
    | _ =>
      unfold apply
      simp only [begin_verification, state]
      cases step with
      | cancel content => exact transition_of_receivedCancel running hears reply
      | _ => simp [state, Step.kind, State.expects] at expected

/-- A step that comes in. -/
theorem transition_of_receive (sender : Option String) (step : Step) :
    Transition a (v.counted (.receive sender step)) source (.receive sender step)
      ((begin v source).receive a sender step).silent := by
  unfold receive
  split
  · rename_i terminal
    change v.isTerminal = true at terminal
    rw [counted, if_pos terminal]
    exact .ended terminal
  · rename_i running
    change ¬v.isTerminal = true at running
    simp only
    rw [counted, if_neg running]
    have running : v.isTerminal = false := by simpa using running
    split
    · rename_i stray
      exact .ignored running fun hears => by simpa using hears.near.symm.trans stray
    · rename_i near
      split
      · rename_i lost
        exact .ignored running fun hears => by simpa using hears.kept.symm.trans lost
      · rename_i kept
        exact transition_of_apply (v := { v with activity := v.activity + 1 }) running
          ⟨eq_false_of_ne_true near, eq_false_of_ne_true kept⟩ _

/-! ### The history -/

theorem transition_of_replay (step : Step) :
    Transition a v source (.replay step) ((begin v source).replay step).silent := by
  unfold replay
  simp only
  split
  · rename_i terminal
    exact .ended terminal
  · rename_i running
    have running : v.isTerminal = false := by simpa using running
    split
    · rename_i content
      split
      · rename_i state
        exact .replayedReady state
      · rename_i state
        exact .replayedLate running state
    · exact .replayedDone running
    · exact .replayedCancel running
    · rename_i ready done cancel
      have run : isRunStep step = true := by
        cases step <;> simp_all [isRunStep, Step.kind]
      exact .replayedRun running run

theorem transition_of_finishReplay :
    Transition a v source .finishReplay ((begin v source).finishReplay).silent := by
  unfold finishReplay
  simp only
  split
  · rename_i settled
    cases terminal : v.isTerminal with
    | true => exact .ended terminal
    | false => exact .unsettled (by simpa [terminal] using settled)
  · rename_i lost
    have lost : v.isTerminal = false ∧ v.sasLost = true := by simpa using lost
    exact .settled lost.1 lost.2

/-! ### Operations -/

/-- **What an operation does.** On a verification that is not held, every operation is one of the
cases, from the verification that has counted an incoming step. -/
theorem transition_of_perform (free : v.held = false) (op : Operation) :
    Transition a (v.counted op) source op (perform a op v source) := by
  unfold perform
  simp only [free, Bool.false_eq_true, ↓reduceIte]
  cases op with
  | ready => exact transition_of_ready
  | start method => exact transition_of_start method
  | act generation action => exact transition_of_act generation action
  | receive sender step => exact transition_of_receive sender step
  | replay step => exact transition_of_replay step
  | finishReplay => exact transition_of_finishReplay
  | cancel content =>
    cases terminal : v.isTerminal with
    | true =>
      have same : (begin v source).cancel a content = begin v source := by
        simp [Progress.cancel, terminal]
      simp only [same]
      exact .ended terminal
    | false => exact transition_of_cancels terminal .wanted _
  | abort content =>
    cases terminal : v.isTerminal with
    | true =>
      have same : (begin v source).abort content = begin v source := by
        simp [Progress.abort, terminal]
      simp only [same]
      exact .ended terminal
    | false =>
      have reached : (begin v source).abort content =
          (begin v source).enter (.cancelled content true) := by
        simp [Progress.abort, terminal]
      simp only [reached]
      exact .abort terminal
  | yieldToOtherDevice =>
    cases terminal : v.isTerminal with
    | true =>
      have same : (begin v source).yieldToOtherDevice = begin v source := by
        simp [Progress.yieldToOtherDevice, terminal]
      simp only [same]
      exact .ended terminal
    | false =>
      have reached : (begin v source).yieldToOtherDevice =
          (begin v source).enter .acceptedByOtherDevice := by
        simp [Progress.yieldToOtherDevice, terminal]
      simp only [reached]
      exact .yield terminal

/-- Behind an answer of the trust store that never came, everything waits. -/
theorem perform_of_held (held : v.held = true) (a : Answers) (op : Operation)
    (source : KeySource) : perform a op v source = ⟨v, source, [], .waiting⟩ := by
  unfold perform
  simp only [held, ↓reduceIte]

end DeviceVerification.Verification
