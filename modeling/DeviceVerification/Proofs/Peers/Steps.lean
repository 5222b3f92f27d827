import DeviceVerification.Proofs.Peers.Conduct
import DeviceVerification.Proofs.Verification.Final

/-!
# What moves an honest side

A side is moved by its user (`Stands.act`) and by the steps of its counterpart (`Stands.hear`). As
long as it takes only steps that its stage awaits, it hands over only steps that the counterpart may
rely on, and stands where they lead.
-/

namespace DeviceVerification.Peers

open Verification

variable {us them : Identity} {role : Role} {v v' : Verification} {told heard : List StepKind}
  {stage : Stage} {a : Answers} {source : KeySource} {op : Operation} {o : Outcome}
  {effects : List Effect}

/-! ## What the user does -/

/-- What the user of a side may do. -/
inductive Wish where
  | ready
  | start (method : Method)
  | act (generation : Nat) (action : Progress.SasAction)
  | cancel (content : CancelContent) (calm : Calm content)

/-- The operation that a wish is. -/
def Wish.operation : Wish → Operation
  | .ready => .ready
  | .start method => .start method
  | .act generation action => .act generation action
  | .cancel content _ => .cancel content

namespace Going

/-- The responder is ready. -/
theorem ready (h : Going us them role v told heard stage) (state : v.state = .theirRequest)
    {failure : Option TransportError} :
    Conducts us them role (v.enter (.ready v.methods)) told heard
      [.send v.route (.ready ⟨v.own.device, v.methods⟩) failure] := by
  cases h.position with
  | requested other =>
    cases role with
    | requester => exact absurd (state.symm.trans other) (by simp [Role.request])
    | responder =>
      refine ⟨?_, .ready, .inl ⟨?_, ?_, trivial, ?_, ?_, h.taken⟩⟩
      · intro step mem
        obtain rfl := List.mem_singleton.1 mem
        exact honest_named (h.sound.own ▸ rfl) (by simp)
      · exact h.sound.congr (by simp) (by simp) (by simp) (by simp) (by simp) (by simp)
      · intro unknown
        cases (h.known (by simpa using unknown)).2
      · exact .ready (enter_state _ _) (by rw [enter_machine]; assumption)
      · rw [h.sent]
        rfl
  | ready other | running other | finishing other => simp [state, State.isRunning] at other

/-- A side starts a method. -/
theorem start (h : Going us them role v told heard stage) {methods : List Method}
    (state : v.state = .ready methods) {method : Method} {context : Sas.Context}
    (known : v.context? = some context) {failure : Option TransportError} :
    Conducts us them role (v.begun method context) told heard
      [.send v.route (.start (v.settings.startContent context.own.device)) failure] := by
  cases h.position with
  | ready =>
    obtain ⟨device, theirs, rfl⟩ := context?_eq_some_iff.1 known
    refine ⟨?_, .running true false .offered, .inl ⟨?_, ?_, by simp [Stage.Fits], ?_, ?_, ?_⟩⟩
    · intro step mem
      obtain rfl := List.mem_singleton.1 mem
      exact honest_named (h.sound.own ▸ rfl) (by simp)
    · apply h.sound.congr <;> simp [begun]
    · intro unknown
      cases (h.known (by simpa [begun] using unknown)).1
    · exact .running (congrArg State.isRunning (enter_state _ _)) (begun_machine v method _)
        (.ownStart rfl rfl rfl)
    · rw [h.sent]
      rfl
    · rw [h.taken]
      exact (List.append_nil _).symm
  | requested other => cases role <;> simp [state, Role.request] at other
  | running other | finishing other => simp [state, State.isRunning] at other

/-- An input that a user gives is no step. -/
theorem takes_of_wish {wish : Wish} {generation : Nat} {input : Sas.Input}
    (feeds : Feeds a v generation wish.operation input) : takes input = [] ∧ input ≠ .release := by
  generalize eq : wish.operation = op at feeds
  cases feeds with
  | accept => exact ⟨rfl, by simp⟩
  | confirm => exact ⟨rfl, by simp⟩
  | reject => exact ⟨rfl, by simp⟩
  | _ => cases wish <;> cases eq

/-- What a side does on its own. -/
theorem act (h : Going us them role v told heard stage) {wish : Wish}
    (t : Transition a v source wish.operation o) :
    Conducts us them role o.verification told heard o.effects := by
  generalize eq : wish.operation = op at t
  cases t with
  | ended terminal => exact absurd (h.not_terminal.symm.trans terminal) (by simp)
  | refused => exact h.stays
  | cancels running why =>
    refine h.cancels ?_ (List.prefix_refl _)
    cases why with
    | wanted =>
      cases wish <;> cases eq
      assumption
    | unready => exact calm_mk (by decide) _
    | _ => cases wish <;> cases eq
  | ready state => exact h.ready state
  | start state offered known => exact h.start state known
  | turn state machine feeds change followed =>
    obtain ⟨none, kept⟩ := takes_of_wish (eq ▸ feeds)
    have turned := h.turn state machine change followed (by simp [none]) kept
    rwa [none, List.append_nil] at turned
  | _ => cases wish <;> cases eq

end Going

/-! ## What the counterpart sends -/

/-- A step of the counterpart, and from whom the message is known to come. -/
structure Comes (them : Identity) (sender : Option String) (step : Step) : Prop where
  honest : Honest them step
  sender : ∀ device, sender = some device → device = them.device

namespace Going

variable {sender : Option String} {step : Step}

/-- A side that goes on hears the counterpart. -/
theorem hears (h : Going us them role v told heard stage) (comes : Comes them sender step) :
    v.Hears sender step where
  near := by
    unfold Progress.isStray
    split
    · rename_i expected device known named
      have same : device = them.device := by
        cases sender with
        | some device' =>
          obtain rfl := Option.some.inj named
          exact comes.sender _ rfl
        | none => exact comes.honest.device device named
      simp [h.sound.device expected known, same]
    · rfl
  kept := by rw [h.sound.kept, Bool.false_and]

/-- What a stage awaits is expected by the verification. -/
theorem expects (h : Going us them role v told heard stage) {kind : StepKind}
    (awaited : stage.Awaits role kind) : v.state.expects kind = true := by
  rcases awaited with rfl | awaited
  · cases v.state <;> rfl
  · cases h.position with
    | requested state =>
      rw [state]
      cases role <;> cases kind <;> simp [Stage.awaits, Role.request, State.expects] at awaited ⊢
    | ready state =>
      rw [state]
      cases kind <;> simp [Stage.awaits, State.expects] at awaited ⊢
    | @running starter raced point m state =>
      obtain ⟨method, device, generation, eq⟩ := State.isRunning_iff.1 state
      rw [eq]
      cases kind <;> cases point <;> simp [Stage.awaits, Point.awaits, State.expects] at awaited ⊢
    | finishing state =>
      rw [state]
      cases kind <;> simp [Stage.awaits, State.expects] at awaited ⊢

/-- A start in a run is awaited only by a side whose own start is not answered. -/
theorem race (h : Going us them role v told heard stage) (state : v.state.isRunning = true)
    (awaited : stage.Awaits role .start) :
    stage = .running true false .offered ∧ Progress.ownStartPending v = true := by
  obtain ⟨starter, raced, point, m, rfl, machine, at_⟩ := h.run_of_isRunning state
  have awaits : point.awaits starter raced .start = true := awaited.resolve_left (by simp)
  cases at_ with
  | ownStart role state =>
    obtain rfl : raced = false := by simpa [Point.awaits] using awaits
    exact ⟨rfl, by simp [Progress.ownStartPending, machine, role, state]⟩
  | _ => simp [Point.awaits] at awaits

/-- A side that hears what it awaits has no reason to cancel for an unexpected message. -/
theorem calm_of_cancels (h : Going us them role v told heard stage)
    (awaited : stage.Awaits role step.kind) {reason : CancelContent}
    (why : Cancels a v (.receive sender step) reason) : Calm reason := by
  cases why with
  | readyUnsupported | startUnsupported | unreadable => exact calm_mk (by decide) _
  | secondStart _ state answered =>
    exact absurd (answered.symm.trans (h.race state awaited).2) (by simp)
  | runless _ state none =>
    obtain ⟨_, _, _, m, _, machine, _⟩ := h.run_of_isRunning state
    exact absurd (none.symm.trans machine) (by simp)
  | unexpected _ surprise =>
    exact absurd (surprise.symm.trans (h.expects awaited)) (by simp)

/-- The requester hears that the responder is ready. -/
theorem hear_ready (h : Going us them role v told heard stage) {content : ReadyContent}
    (comes : Comes them sender (.ready content)) (state : v.state = .ownRequest)
    (dismissed : Dismissed (v.route.others content.fromDevice) effects) {methods : List Method} :
    Conducts us them role ({ Progress.chosen content.fromDevice v with
      methods := methods }.enter (.ready methods)) told (heard ++ [.ready]) effects := by
  have device : content.fromDevice = them.device := comes.honest.device _ rfl
  cases h.position with
  | requested other none =>
    cases role with
    | responder => exact absurd (state.symm.trans other) (by simp [Role.request])
    | requester =>
      have steps : stepsOf effects = [] := dismissed.filterMap_step?
      refine ⟨by simp [steps], .ready, .inl ⟨?_, ?_, trivial, ?_, ?_, ?_⟩⟩
      · refine ⟨?_, ?_, ?_, ?_, ?_, ?_⟩
        · simp [Progress.chosen, h.sound.own]
        · simpa [Progress.chosen, theirUser] using h.sound.user
        · intro d known
          rw [← device]
          simpa [Progress.chosen] using known.symm
        · simpa [Progress.chosen] using h.sound.kept
        · simpa [Progress.chosen] using h.sound.early
        · simpa [Progress.chosen] using h.sound.free
      · intro unknown
        simp [Progress.chosen] at unknown
      · exact .ready (enter_state _ _) ((enter_machine _ _).trans none)
      · rw [steps, h.sent]
        rfl
      · rw [h.taken]
        rfl
  | ready other | running other | finishing other => simp [state, State.isRunning] at other

/-- A side puts the counterpart's start into effect. -/
theorem adopted (h : Going us them role v told heard stage) {content : StartContent}
    (w : Verification) (raced : Bool) (same : w = { v with machine := w.machine })
    (known : v.theirDevice ≠ none) (adopted : Adopted w content v' effects)
    (fits : raced = true → us.before them = false)
    (sent : told = (Stage.running false raced .offered).sent role)
    (taken : heard ++ [.start] = (Stage.running false raced .offered).taken role) :
    Conducts us them role v' told (heard ++ [.start]) effects := by
  have sound : Sound us them w := by
    rw [same]
    exact h.sound.congr rfl rfl rfl rfl rfl rfl
  have device : w.theirDevice = v.theirDevice := by rw [same]
  cases adopted with
  | stranger unknown =>
    simp only [context?, Option.map_eq_none_iff, device] at unknown
    exact absurd unknown known
  | adopted context made =>
    refine ⟨by simp [stepsOf], .running false raced .offered, .inl ⟨?_, ?_, ?_, ?_, ?_, taken⟩⟩
    · apply sound.congr <;> simp
    · intro unknown
      rw [enter_theirDevice] at unknown
      exact absurd (device.symm.trans unknown) known
    · exact fun race => (fits race).symm
    · obtain rfl := Sas.Machine.eq_init_of_theirStart made
      exact .running (congrArg State.isRunning (enter_state _ _)) (enter_machine _ _)
        (.theirStart rfl rfl rfl)
    · exact (List.append_nil told).trans sent
  | @unagreed _ reason _ context made =>
    have calm : Calm reason := by
      unfold Sas.Machine.theirStart at made
      split at made
      · cases made
      · cases made
        exact calm_mk (by decide) _
    refine ⟨by simpa [stepsOf, Effect.step?] using honest_cancel calm, ?_⟩
    exact stands_of_cancelled stage (enter_state _ _) calm h.fits
      (.inr (congrArg (· ++ _) h.sent))
      (h.taken ▸ List.prefix_append _ _)

/-- A side that is ready hears a start. -/
theorem hear_start (h : Going us them role v told heard stage) {content : StartContent}
    {w : Verification} {choice : List Effect} (awaited : stage.Awaits role .start)
    (state : v.state = .ownRequest ∨ ∃ methods, v.state = .ready methods)
    (met : Met v content.fromDevice w choice) (adopted : Adopted w content v' effects) :
    Conducts us them role v' told (heard ++ [.start]) (choice ++ effects) := by
  have awaits : stage.awaits role .start = true := awaited.resolve_left (by simp)
  cases h.position with
  | requested => simp [Stage.awaits] at awaits
  | running other | finishing other =>
    rcases state with eq | ⟨methods, eq⟩ <;> simp [eq, State.isRunning] at other
  | ready =>
    have known : v.theirDevice ≠ none := by
      intro unknown
      cases (h.known unknown).1
    cases met with
    | chosen unknown => exact absurd unknown known
    | known =>
      refine h.adopted v false rfl known adopted (by simp) ?_ ?_
      · rw [h.sent]
        exact (List.append_nil _).symm
      · rw [h.taken]
        rfl

/-- A side that hears of a race keeps its own start if it is the lower one. -/
theorem keep_start (h : Going us them role v told heard stage) (state : v.state.isRunning = true)
    (awaited : stage.Awaits role .start) (lower : us.before them = true) :
    Conducts us them role v told (heard ++ [.start]) [] := by
  obtain ⟨rfl, -⟩ := h.race state awaited
  refine ⟨by simp [stepsOf], .running true true .offered, .inl ⟨h.sound, ?_, ?_, ?_, ?_, ?_⟩⟩
  · intro unknown
    cases (h.known unknown).1
  · exact fun _ => lower.symm
  · cases h.position with
    | running state machine at_ =>
      refine .running state machine ?_
      cases at_ with
      | ownStart role state free => exact .ownStart role state free
  · rw [h.sent]
    exact List.append_nil _
  · rw [h.taken]
    exact List.append_assoc _ _ _

/-- A side that hears of a race gives up its own start if it is the higher one. -/
theorem lose_start (h : Going us them role v told heard stage) {content : StartContent}
    (state : v.state.isRunning = true) (awaited : stage.Awaits role .start)
    (higher : us.before them = false)
    (adopted : Adopted { v with machine := none } content v' effects) :
    Conducts us them role v' told (heard ++ [.start]) effects := by
  obtain ⟨rfl, -⟩ := h.race state awaited
  have known : v.theirDevice ≠ none := by
    intro unknown
    cases (h.known unknown).1
  refine h.adopted { v with machine := none } true rfl known adopted
    (fun _ => higher) h.sent ?_
  rw [h.taken]
  exact List.append_assoc _ _ _

/-- A side that finishes hears that the counterpart is done. -/
theorem hear_done (h : Going us them role v told heard stage) {isOwn : Bool}
    (state : v.state = .waitForDone isOwn) :
    Conducts us them role ({ v with theirDone := true }.enter .done) told (heard ++ [.done])
      [] := by
  cases h.position with
  | requested other => cases role <;> simp [state, Role.request] at other
  | ready other | running other => simp [state, State.isRunning] at other
  | @finishing starter raced =>
    refine ⟨by simp [stepsOf], stands_of_terminal (.finished starter raced)
      (enter_isTerminal _ _) h.fits (.inl ?_) ?_ ?_ ?_⟩
    · rw [h.sent]
      exact List.append_nil _
    · rw [h.taken]
      simp [Stage.taken]
    · intro content isOwn same
      rw [enter_state] at same
      cases same
    · intro _
      rw [h.sent, h.taken]
      simp [Stage.sent]

/-- The kind of the step that an incoming input is. -/
theorem takes_of_step {generation : Nat} {input : Sas.Input}
    (feeds : Feeds a v generation (.receive sender step) input) :
    takes input = [step.kind] ∧ step.kind ≠ .cancel ∧ input ≠ .release := by
  cases feeds with
  | accepted => exact ⟨rfl, by simp [Step.kind], by simp⟩
  | key => exact ⟨rfl, by simp [Step.kind], by simp⟩
  | mac => exact ⟨rfl, by simp [Step.kind], by simp⟩

/-- What a side makes of a step that it awaits. -/
theorem hear (h : Going us them role v told heard stage) (comes : Comes them sender step)
    (awaited : stage.Awaits role step.kind)
    (t : Transition a v source (.receive sender step) o) :
    Conducts us them role o.verification told (heard ++ [step.kind]) o.effects := by
  have more : stage.taken role <+: heard ++ [step.kind] := h.taken ▸ List.prefix_append _ _
  cases t with
  | ended terminal => exact absurd (h.not_terminal.symm.trans terminal) (by simp)
  | refused action => cases action
  | cancels running why => exact h.cancels (h.calm_of_cancels awaited why) (List.prefix_append _ _)
  | ignored running deaf => exact absurd (h.hears comes) deaf
  | turn state machine feeds change followed =>
    obtain ⟨kinds, ordinary, kept⟩ := takes_of_step feeds
    have turned := h.turn state machine change followed (fun kind mem => by
      rw [kinds] at mem
      obtain rfl := List.mem_singleton.1 mem
      exact awaited.resolve_left ordinary) kept
    rwa [kinds] at turned
  | answeredElsewhere =>
    refine ⟨by simp [stepsOf], stands_of_terminal stage (enter_isTerminal _ _) h.fits
      (.inl ?_) more ?_ ?_⟩
    · exact (List.append_nil told).trans h.sent
    · intro content isOwn same
      rw [enter_state] at same
      cases same
    · intro same
      rw [enter_state] at same
      cases same
  | cancelledByThem =>
    exact ⟨by simp [stepsOf], stands_of_cancelled stage (enter_state _ _)
      (comes.honest.calm _ rfl) h.fits (.inl ((List.append_nil told).trans h.sent)) more⟩
  | receivedReady hears state some dismissed => exact h.hear_ready comes state dismissed
  | receivedStart hears state supported met adopted => exact h.hear_start awaited state met adopted
  | @keptStart _ content _ hears state pending lower =>
    have sender : (⟨v.theirUser, content.fromDevice⟩ : Identity) = them := by
      rw [h.sound.user, comes.honest.device _ rfl]
    rw [h.sound.own, sender] at lower
    exact h.keep_start state awaited lower
  | @lostStart _ content _ _ _ hears state pending higher adopted =>
    have sender : (⟨v.theirUser, content.fromDevice⟩ : Identity) = them := by
      rw [h.sound.user, comes.honest.device _ rfl]
    rw [h.sound.own, sender] at higher
    exact h.lose_start state awaited higher adopted
  | doneFirst hears state running =>
    have awaits : stage.awaits role .done = true := awaited.resolve_left (by simp [Step.kind])
    cases h.position with
    | finishing eq => simp [eq, State.isRunning, State.expects] at state
    | requested | ready => simp [Stage.awaits] at awaits
    | @running starter raced point => cases point <;> simp [Stage.awaits, Point.awaits] at awaits
  | doneLast hears state => exact h.hear_done state

end Going

/-! ## A side that stopped -/

/-- Nothing happens to a side that stopped. -/
theorem Stopped.conducts (h : Stopped us them role v told heard stage) (a : Answers)
    (op : Operation) (source : KeySource) {heard' : List StepKind} (more : heard <+: heard') :
    Conducts us them role (perform a op v source).verification told heard'
      (perform a op v source).effects := by
  have still : (perform a op v source).verification = v ∧ (perform a op v source).effects = [] := by
    rcases h.stopped with held | terminal
    · rw [perform_of_held held]
      exact ⟨rfl, rfl⟩
    · obtain ⟨reply, still⟩ := perform_of_terminal terminal a op source
      rw [still]
      exact ⟨rfl, rfl⟩
  rw [still.1, still.2]
  refine ⟨by simp [stepsOf], stage, .inr ⟨h.stopped, h.fits, ?_, h.taken.trans more, h.calm, ?_⟩⟩
  · exact (List.append_nil told).symm ▸ h.sent
  · intro done
    obtain ⟨out, come⟩ := h.done done
    exact ⟨List.mem_append_left _ out, more.subset come⟩

/-- A side that follows its user's wish. -/
theorem Stands.act (h : Stands us them role v told heard) (wish : Wish) (a : Answers)
    (source : KeySource) :
    Conducts us them role (perform a wish.operation v source).verification told heard
      (perform a wish.operation v source).effects := by
  obtain ⟨stage, going | stopped⟩ := h
  · exact (going.counted wish.operation).act
      (transition_of_perform going.sound.free wish.operation)
  · exact stopped.conducts a wish.operation source (List.prefix_refl _)

/-- A side that takes a step which it awaits if it goes on. -/
theorem Stands.hear (h : Stands us them role v told heard) {sender : Option String} {step : Step}
    (comes : Comes them sender step) (awaited : ∀ stage, Going us them role v told heard stage →
      stage.Awaits role step.kind) (a : Answers) (source : KeySource) :
    Conducts us them role (perform a (.receive sender step) v source).verification told
      (heard ++ [step.kind]) (perform a (.receive sender step) v source).effects := by
  obtain ⟨stage, going | stopped⟩ := h
  · exact (going.counted (.receive sender step)).hear comes (awaited stage going)
      (transition_of_perform going.sound.free (.receive sender step))
  · exact stopped.conducts a (.receive sender step) source (List.prefix_append _ _)

end DeviceVerification.Peers
