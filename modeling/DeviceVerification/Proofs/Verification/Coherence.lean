import DeviceVerification.Proofs.Verification.Final
import DeviceVerification.Proofs.Verification.Generation

/-!
# What a state says about the rest

The state of a verification, the device of its counterpart, its machine, the counter of generations
and the two done flags are written by every operation, also by those that restore a history and by
starts that cross. `Coherent` is what they say about each other. It is why a handler that finds no
device or no machine never comes to its way out: a start is not refused for want of a device, and a
start of the counterpart that is taken is answered (`lifecycle_is_coherent`).
-/

namespace DeviceVerification.Verification

open Progress

/-- Whether the device of the counterpart is known in a state: it asked, or the two have met. -/
def State.knowsDevice : State → Bool
  | .theirRequest => true
  | .ready _ => true
  | .start _ _ _ => true
  | _ => false

/-- What the state of a verification says about its other parts. -/
structure Coherent (v : Verification) : Prop where
  /-- The device of the counterpart is known where the state relies on it. -/
  device : v.state.knowsDevice = true → v.theirDevice.isSome
  /-- A run has a machine, of the generation under which the run is shown. -/
  run : ∀ generation, v.state.generation? = some generation →
    ∃ m, v.machine = some m ∧ m.generation = generation
  /-- Where a done step is missing, it is the one of the counterpart. -/
  waiting : ∀ isOwn, v.state = .waitForDone isOwn → v.ownDone = true ∧ v.theirDone = false

variable {a : Answers} {v v' w : Verification} {source : KeySource} {op : Operation} {o : Outcome}
  {turn : Sas.Turn} {effects : List Effect} {content : StartContent} {m : Sas.Machine}

/-! ## Entering a state -/

theorem coherent_enter_terminal {s : State} (terminal : s.isTerminal = true) :
    Coherent (v.enter s) where
  device known := by
    rw [enter_state] at known
    cases s <;> simp [State.isTerminal, State.knowsDevice] at terminal known
  run generation shown := by
    rw [enter_state] at shown
    cases s <;> simp [State.isTerminal, State.generation?] at terminal shown
  waiting isOwn state := by
    rw [enter_state] at state
    subst state
    cases terminal

theorem coherent_enter_ready (known : v.theirDevice.isSome) (methods : List Method) :
    Coherent (v.enter (.ready methods)) where
  device _ := by
    rw [enter_theirDevice]
    exact known
  run generation shown := by
    rw [enter_state] at shown
    cases shown
  waiting isOwn state := by
    rw [enter_state] at state
    cases state

/-- A run begins with a machine of its generation. -/
theorem coherent_enter_start {generation : Nat} (known : v.theirDevice.isSome)
    (machine : v.machine = some m) (numbered : m.generation = generation) (method : Method)
    (device : String) : Coherent (v.enter (.start method device generation)) where
  device _ := by
    rw [enter_theirDevice]
    exact known
  run generation shown := by
    rw [enter_state] at shown
    refine ⟨m, ?_, numbered.trans (Option.some.inj shown)⟩
    rw [enter_machine]
    exact machine
  waiting isOwn state := by
    rw [enter_state] at state
    cases state

theorem coherent_enter_waitForDone (ownDone : v.ownDone = true) (theirDone : v.theirDone = false)
    (isOwn : Bool) : Coherent (v.enter (.waitForDone isOwn)) where
  device known := by
    rw [enter_state] at known
    cases known
  run generation shown := by
    rw [enter_state] at shown
    cases shown
  waiting _ _ := by
    rw [enter_ownDone, enter_theirDone]
    exact ⟨ownDone, theirDone⟩

namespace Coherent

/-- What leaves the state where it is and the machine with its generation keeps a verification
coherent, if it does not touch the done flags that the state is about. -/
theorem keeps (h : Coherent v) (state : v'.state = v.state)
    (device : v'.theirDevice = v.theirDevice)
    (machine : ∀ m, v.machine = some m → ∃ m', v'.machine = some m' ∧
      m'.generation = m.generation)
    (flags : ∀ isOwn, v.state = .waitForDone isOwn → v.ownDone = true → v.theirDone = false →
      v'.ownDone = true ∧ v'.theirDone = false) : Coherent v' where
  device known := by
    rw [state] at known
    rw [device]
    exact h.device known
  run generation shown := by
    rw [state] at shown
    obtain ⟨m, found, rfl⟩ := h.run generation shown
    exact machine m found
  waiting isOwn waits := by
    rw [state] at waits
    obtain ⟨ownDone, theirDone⟩ := h.waiting isOwn waits
    exact flags isOwn waits ownDone theirDone

/-- Counting a step that comes in changes nothing of it. -/
theorem counted (h : Coherent v) (op : Operation) : Coherent (v.counted op) := by
  refine h.keeps (counted_state v op) (counted_theirDevice v op) ?_ ?_
  · intro m machine
    exact ⟨m, (counted_machine v op).trans machine, rfl⟩
  · intro _ _ ownDone theirDone
    simp [ownDone, theirDone]

theorem device_of_isRunning (h : Coherent v) (running : v.state.isRunning = true) :
    v.theirDevice.isSome := by
  obtain ⟨method, device, generation, eq⟩ := State.isRunning_iff.1 running
  exact h.device (by rw [eq]; rfl)

end Coherent

/-- Once the device of the counterpart is known, it is known who runs a method. -/
theorem exists_context (known : v.theirDevice.isSome) : ∃ context, v.context? = some context := by
  obtain ⟨device, found⟩ := Option.isSome_iff_exists.1 known
  exact ⟨_, context?_eq_some_iff.2 ⟨device, found, rfl⟩⟩

theorem coherent_ofRequest (own : Identity) (settings : Sas.Settings) (route : Route)
    (request : Request) : Coherent (ofRequest own settings route request) := by
  cases asked : request.isOwn <;> constructor <;>
    simp [ofRequest, asked, State.knowsDevice, State.generation?]

/-! ## One operation -/

/-- Adopting a start leads to its run or to a cancellation. -/
theorem Adopted.coherent (h : Adopted v content v' effects) (known : v.theirDevice.isSome) :
    Coherent v' := by
  cases h with
  | stranger unknown =>
    obtain ⟨context, found⟩ := exists_context known
    cases unknown.symm.trans found
  | unagreed => exact coherent_enter_terminal rfl
  | @adopted context m found made =>
    obtain rfl := Sas.Machine.eq_init_of_theirStart made
    apply coherent_enter_start
    · exact known
    · rfl
    · rfl

/-- A verification waits for the counterpart's done step only after its own went out. -/
theorem Followed.coherent (h : Followed a v turn v' effects) (coherent : Coherent v) :
    Coherent v' := by
  cases h with
  | proceed => exact coherent
  | refused | cancelled => exact coherent_enter_terminal rfl
  | pending =>
    refine coherent.keeps rfl rfl (fun m machine => ⟨m, machine, rfl⟩) ?_
    exact fun _ _ ownDone theirDone => ⟨ownDone, theirDone⟩
  | recorded =>
    unfold completed
    cases theirs : v.theirDone with
    | true =>
      simp only [release, theirs, ↓reduceIte]
      exact coherent_enter_terminal rfl
    | false =>
      simp only [release, theirs, Bool.false_eq_true, ↓reduceIte]
      apply coherent_enter_waitForDone
      · rfl
      · rfl

/-- Every operation keeps a verification coherent. -/
theorem Transition.coherent (t : Transition a v source op o) (h : Coherent v) :
    Coherent o.verification := by
  cases t with
  | ended | refused | ignored | keptStart | replayedLate | unsettled => exact h
  | cancels | abort | yield | answeredElsewhere | cancelledByThem | replayedCancel | doneLast =>
    dsimp only
    exact coherent_enter_terminal rfl
  | ready state | replayedReady state =>
    have known : v.theirDevice.isSome := h.device (by rw [state]; rfl)
    exact coherent_enter_ready known _
  | receivedReady => exact coherent_enter_ready (Option.isSome_some) _
  | @start method methods context failure reply state offered known =>
    apply coherent_enter_start
    · exact h.device (by rw [state]; rfl)
    · rfl
    · rfl
  | turn state machine feeds change followed =>
    refine followed.coherent (h.keeps rfl rfl ?_ fun _ _ ownDone theirDone => ⟨ownDone, theirDone⟩)
    intro k found
    obtain rfl := Option.some.inj (machine.symm.trans found)
    exact ⟨_, rfl, change.generation_eq⟩
  | receivedStart hears state supported met adopted =>
    cases met with
    | known device => exact adopted.coherent device
    | chosen => exact adopted.coherent Option.isSome_some
  | lostStart hears state pending higher adopted =>
    have known : v.theirDevice.isSome := h.device_of_isRunning state
    exact adopted.coherent known
  | doneFirst hears place running =>
    refine h.keeps rfl rfl (fun m machine => ⟨m, machine, rfl⟩) ?_
    -- A done step that is awaited is the last one, and another case.
    intro isOwn waits
    rcases place with run | ⟨surprise, lost⟩
    · simp [waits, State.isRunning] at run
    · simp [waits, State.expects] at surprise
  | replayedDone running =>
    refine h.keeps rfl rfl (fun m machine => ⟨m, machine, rfl⟩) ?_
    exact fun _ _ _ theirDone => ⟨rfl, theirDone⟩
  | replayedRun running run =>
    refine h.keeps rfl rfl ?_ fun _ _ ownDone theirDone => ⟨ownDone, theirDone⟩
    intro m machine
    refine ⟨m.release, ?_, rfl⟩
    simp [release, machine]
  | settled running lost =>
    dsimp only
    cases ours : v.ownDone with
    | false => exact coherent_enter_terminal rfl
    | true =>
      cases theirs : v.theirDone with
      | true => exact coherent_enter_terminal rfl
      | false => exact coherent_enter_waitForDone ours theirs true

/-- Every verification that is reached is coherent. -/
theorem Reachable.coherent (reached : Reachable v) : Coherent v := by
  refine reached.induction ?_ ?_
  · exact coherent_ofRequest
  · intro v op a source outcome coherent _ t
    exact t.coherent (coherent.counted op)

/-- A machine is there only for a run, or after one. -/
theorem Reachable.running_or_after (reached : Reachable v) (machine : v.machine = some m) :
    v.state.isRunning = true ∨ (∃ isOwn, v.state = .waitForDone isOwn) ∨
      v.isTerminal = true := by
  obtain ⟨r, whole, rfl⟩ := reached
  rcases (whole.faithful.machine m machine).started with running | closed
  · exact .inl running
  · refine .inr ?_
    revert closed
    unfold isTerminal State.isOpen
    split
    · rename_i isOwn state
      exact fun _ => .inl ⟨isOwn, state⟩
    · exact fun closed => .inr (by simpa using closed)

/-! ## Starts -/

/-- What a start of the counterpart makes of a verification that answers it: its run begins, or we
cancel. -/
inductive TakesUp (v : Verification) (content : StartContent) (w : Verification) : Prop where
  | begins {context : Sas.Context} {m : Sas.Machine} (known : w.context? = some context)
      (made : Sas.Machine.theirStart v.nextGeneration context v.settings content = .ok m)
      (machine : w.machine = some m)
      (state : w.state = .start content.method content.fromDevice v.nextGeneration)
  | declines {reason : CancelContent} (state : w.state = .cancelled reason true)

theorem TakesUp.of_eq (h : TakesUp w content v') (generation : w.nextGeneration = v.nextGeneration)
    (settings : w.settings = v.settings) : TakesUp v content v' := by
  cases h with
  | begins known made machine state =>
    rw [generation, settings] at made
    rw [generation] at state
    exact .begins known made machine state
  | declines state => exact .declines state

/-- Our own start waits for its answer and has precedence over one of the counterpart. -/
def KeepsStart (v : Verification) (content : StartContent) : Prop :=
  v.state.isRunning = true ∧ ownStartPending v = true ∧
    v.own.before ⟨v.theirUser, content.fromDevice⟩ = true

/-- A start that is adopted is not dropped if the device of the counterpart is known. -/
theorem Adopted.takesUp (h : Adopted v content v' effects) (known : v.theirDevice.isSome) :
    TakesUp v content v' := by
  cases h with
  | stranger unknown =>
    obtain ⟨context, found⟩ := exists_context known
    cases unknown.symm.trans found
  | unagreed => exact .declines (enter_state _ _)
  | @adopted context m found made =>
    refine .begins ((enter_context? _ _).trans found) made ?_ (enter_state _ _)
    rw [enter_machine]
    rfl

/-- A start of the counterpart that is taken gives way to ours or is answered. -/
theorem Transition.takesUp {sender : Option String}
    (t : Transition a v source (.receive sender (.start content)) o) (h : Coherent v)
    (running : v.isTerminal = false) (hears : v.Hears sender (.start content)) :
    v.KeepsStart content ∧ o.verification = v ∨ TakesUp v content o.verification := by
  cases t with
  | ended terminal => cases running.symm.trans terminal
  | refused action => cases action
  | ignored _ deaf => exact absurd hears deaf
  | turn _ _ feeds => cases feeds
  | cancels => exact .inr (.declines (enter_state _ _))
  | keptStart _ state pending lower => exact .inl ⟨⟨state, pending, lower⟩, rfl⟩
  | lostStart _ state _ _ adopted =>
    have known : v.theirDevice.isSome := h.device_of_isRunning state
    exact .inr ((adopted.takesUp known).of_eq rfl rfl)
  | receivedStart _ _ _ met adopted =>
    cases met with
    | known device => exact .inr (adopted.takesUp device)
    | chosen => exact .inr ((adopted.takesUp Option.isSome_some).of_eq rfl rfl)

/-- What an operation answers that hands a single step to the route. -/
def sentReply (a : Answers) : Reply :=
  match a.delivery 0 with
  | some e => .refused (.transport e)
  | none => .done

/-- An operation that changes the verification and hands a single step to the route. -/
theorem report_send (a : Answers) (step : Step) (v : Verification) (source : KeySource)
    (free : v.held = false) : ((begin v source).send a step).report =
      ⟨v, source, [.send v.route step (a.delivery 0)], sentReply a⟩ := by
  have first : (begin v source).messages = 0 := rfl
  unfold report send sentReply
  simp only [first, begin_verification, free, Bool.false_eq_true, ↓reduceIte]
  cases lost : a.delivery 0 <;> simp [begin, failure?, Effect.sendFailure?]

/-- Where both sides are ready and it is known who runs a method, a start begins the run. -/
theorem perform_start {method : Method} {methods : List Method} {context : Sas.Context}
    (free : v.held = false) (state : v.state = .ready methods) (offered : method ∈ methods)
    (known : v.context? = some context) (a : Answers) (source : KeySource) :
    perform a (.start method) v source = ⟨v.begun method context, source,
      [.send v.route (.start (v.settings.startContent v.own.device)) (a.delivery 0)],
      sentReply a⟩ := by
  obtain ⟨device, -, own⟩ := context?_eq_some_iff.1 known
  have held : (v.begun method context).held = false := (enter_held _ _).trans free
  have route : (v.begun method context).route = v.route := enter_route _ _
  have began : perform a (.start method) v source =
      ((begin (v.begun method context) source).send a
        (.start (v.settings.startContent context.own.device))).report := by
    unfold perform Progress.start
    simp only [free, Bool.false_eq_true, ↓reduceIte, begin_verification, state, known,
      List.contains_iff_mem.2 offered]
    rfl
  rw [began, report_send _ _ _ _ held, route, own]

/-- A start of the counterpart that is taken gives way to ours or is answered. -/
theorem Coherent.takesUp (h : Coherent v) (free : v.held = false) (running : v.isTerminal = false)
    {sender : Option String} (hears : v.Hears sender (.start content)) (a : Answers)
    (source : KeySource) :
    v.KeepsStart content ∧ (perform a (.receive sender (.start content)) v source).verification =
        v.counted (.receive sender (.start content)) ∨
      TakesUp v content
        (perform a (.receive sender (.start content)) v source).verification := by
  have t : Transition a (v.counted (.receive sender (.start content))) source
      (.receive sender (.start content)) (perform a (.receive sender (.start content)) v source) :=
    transition_of_perform free _
  have awake : (v.counted (.receive sender (.start content))).isTerminal = false :=
    (congrArg State.isTerminal (counted_state v _)).trans running
  have heard := (hears_counted v (.receive sender (.start content))).2 hears
  rcases t.takesUp (h.counted _) awake heard with ⟨⟨state, pending, lower⟩, same⟩ | taken
  · refine .inl ⟨⟨?_, ?_, ?_⟩, same⟩
    · simpa using state
    · simpa [ownStartPending] using pending
    · simpa [theirUser] using lower
  · exact .inr (taken.of_eq (counted_nextGeneration v _) (counted_settings v _))

/-- **The lifecycle is coherent.** In every verification that is reached, the state tells the truth
about the counterpart's device, the machine and the done flags: a machine is there only for a run or
after one, below the counter, and a run is shown under the generation of its machine. So a start of
ours never fails for want of a device, and a start of the counterpart that is taken either gives way
to ours or begins its run or has us cancel, but is never dropped. -/
theorem lifecycle_is_coherent (reached : Reachable v) :
    Coherent v ∧
      (∀ m, v.machine = some m → m.generation < v.nextGeneration ∧
        (v.state.isRunning = true ∨ (∃ isOwn, v.state = .waitForDone isOwn) ∨
          v.isTerminal = true)) ∧
      (∀ a source method methods, v.held = false → v.state = .ready methods → method ∈ methods →
        ∃ context, v.context? = some context ∧
          perform a (.start method) v source = ⟨v.begun method context, source,
            [.send v.route (.start (v.settings.startContent v.own.device)) (a.delivery 0)],
            sentReply a⟩) ∧
      ∀ a source sender content, v.held = false → v.isTerminal = false →
        v.Hears sender (.start content) →
          v.KeepsStart content ∧
              (perform a (.receive sender (.start content)) v source).verification =
                v.counted (.receive sender (.start content)) ∨
            TakesUp v content
              (perform a (.receive sender (.start content)) v source).verification := by
  refine ⟨reached.coherent, ?_, ?_, ?_⟩
  · intro m machine
    exact ⟨reached.generation_lt machine, reached.running_or_after machine⟩
  · intro a source method methods free state offered
    have device : v.theirDevice.isSome := reached.coherent.device (by rw [state]; rfl)
    obtain ⟨context, known⟩ := exists_context device
    exact ⟨context, known, perform_start free state offered known a source⟩
  · intro a source sender content free running hears
    exact reached.coherent.takesUp free running hears a source

/-! ### Bob and Alice start at once -/

section

open Sas

/-- Bob answers Alice and starts. -/
def sampleBegun : Run :=
  (Run.begin sampleAsked ⟨[]⟩).steps [(.ready, sampleAnswers), (.start .sas, sampleAnswers)]

/-- Alice's start crosses Bob's and is taken up, under the generation after the one of his. -/
theorem lifecycle_is_coherent_sample :
    let start := Settings.default.startContent "ALICE"
    let v := sampleBegun.verification
    let met := perform sampleAnswers (.receive (some "ALICE") (.start start)) v ⟨[]⟩
    Reachable v ∧ v.state = .start .sas "BOB" 1 ∧ Coherent v ∧
      TakesUp v start met.verification ∧ met.verification.state = .start .sas "ALICE" 2 := by
  have reached : Reachable sampleBegun.verification :=
    ⟨sampleBegun, ⟨_, _, _, sampleRequest false, ⟨[]⟩,
      [(.ready, sampleAnswers), (.start .sas, sampleAnswers)], rfl⟩, rfl⟩
  obtain ⟨coherent, -, -, taken⟩ := lifecycle_is_coherent reached
  refine ⟨reached, by decide +kernel, coherent, ?_, by decide +kernel⟩
  rcases taken sampleAnswers ⟨[]⟩ (some "ALICE") (Settings.default.startContent "ALICE")
    (by decide +kernel) (by decide +kernel) ⟨by decide +kernel, by decide +kernel⟩ with
    ⟨⟨-, -, lower⟩, -⟩ | taken
  · have higher : sampleBegun.verification.own.before
        ⟨sampleBegun.verification.theirUser, "ALICE"⟩ = false := by decide +kernel
    exact absurd (higher.symm.trans lower) (by simp)
  · exact taken

end

end DeviceVerification.Verification
