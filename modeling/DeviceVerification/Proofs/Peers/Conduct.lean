import DeviceVerification.Proofs.Peers.Machine
import DeviceVerification.Proofs.Verification.Trust

/-!
# The conduct of an honest side

`Going` describes a side that goes on and `Stopped` one to which nothing happens any more, each at a
stage with what it told and heard so far. `Going.turn` moves a side by a turn of its machine.
-/

namespace DeviceVerification.Peers

open Verification

/-- The state in which a side begins. -/
def Role.request : Role → State
  | .requester => .ownRequest
  | .responder => .theirRequest

/-- What a verification looks like at a stage at which its side goes on. -/
inductive Position (role : Role) (v : Verification) : Stage → Prop where
  | requested (state : v.state = role.request) (none : v.machine = none) :
      Position role v .requested
  | ready {methods : List Method} (state : v.state = .ready methods) (none : v.machine = none) :
      Position role v .ready
  | running {starter raced : Bool} {point : Point} {m : Sas.Machine}
      (state : v.state.isRunning = true) (machine : v.machine = some m)
      (at_ : At starter point m) : Position role v (.running starter raced point)
  | finishing {starter raced isOwn : Bool} (state : v.state = .waitForDone isOwn) :
      Position role v (.finishing starter raced)

/-- What holds of a verification between two honest sides while it goes on. -/
structure Sound (us them : Identity) (v : Verification) : Prop where
  own : v.own = us
  user : v.theirUser = them.user
  device : ∀ device, v.theirDevice = some device → device = them.device
  kept : v.sasLost = false
  early : v.theirDone = false
  free : v.held = false

/-- A side that goes on, at a stage with what it told and heard so far. -/
structure Going (us them : Identity) (role : Role) (v : Verification)
    (told heard : List StepKind) (stage : Stage) : Prop where
  sound : Sound us them v
  known : v.theirDevice = none → stage = .requested ∧ role = .requester
  fits : stage.Fits (us.before them)
  position : Position role v stage
  sent : told = stage.sent role
  taken : heard = stage.taken role

/-- A side to which nothing happens any more: it stopped at a stage, and may have cancelled. -/
structure Stopped (us them : Identity) (role : Role) (v : Verification)
    (told heard : List StepKind) (stage : Stage) : Prop where
  stopped : v.held = true ∨ v.isTerminal = true
  fits : stage.Fits (us.before them)
  sent : told = stage.sent role ∨ told = stage.sent role ++ [.cancel]
  taken : stage.taken role <+: heard
  calm : ∀ content isOwn, v.state = .cancelled content isOwn → Calm content
  done : v.state = .done → .done ∈ told ∧ .done ∈ heard

/-- A side stands at a stage. -/
def Stands (us them : Identity) (role : Role) (v : Verification)
    (told heard : List StepKind) : Prop :=
  ∃ stage, Going us them role v told heard stage ∨ Stopped us them role v told heard stage

/-- The steps that effects hand over. -/
def stepsOf (effects : List Effect) : List Step := effects.filterMap (·.step?)

/-- A side hands over only steps that the counterpart may rely on, and stands where they lead. -/
structure Conducts (us them : Identity) (role : Role) (v : Verification)
    (told heard : List StepKind) (effects : List Effect) : Prop where
  honest : ∀ step ∈ stepsOf effects, Honest us step
  stands : Stands us them role v (told ++ (stepsOf effects).map (·.kind)) heard

@[simp] theorem stepsOf_append (effects effects' : List Effect) :
    stepsOf (effects ++ effects') = stepsOf effects ++ stepsOf effects' :=
  List.filterMap_append

theorem honest_cancel {us : Identity} {content : CancelContent} (calm : Calm content) :
    Honest us (.cancel content) where
  device _ names := by cases names
  calm _ same := by
    cases same
    exact calm

/-- A step that names our own device and cancels nothing. -/
theorem honest_named {us : Identity} {step : Step} (named : step.fromDevice? = some us.device)
    (ordinary : ∀ content, step ≠ .cancel content) : Honest us step where
  device _ names := Option.some.inj (names.symm.trans named)
  calm content same := absurd same (ordinary content)

theorem honest_done (us : Identity) : Honest us .done where
  device _ names := by cases names
  calm _ same := by cases same

variable {us them : Identity} {role : Role} {v v' : Verification} {told heard : List StepKind}
  {stage : Stage} {a : Answers} {source : KeySource} {op : Operation} {o : Outcome}
  {effects : List Effect}

/-- Soundness is about what an operation rarely changes. -/
theorem Sound.congr (h : Sound us them v) (own : v'.own = v.own) (request : v'.request = v.request)
    (device : v'.theirDevice = v.theirDevice) (sasLost : v'.sasLost = v.sasLost)
    (theirDone : v'.theirDone = v.theirDone) (held : v'.held = v.held) : Sound us them v' where
  own := own.trans h.own
  user := (congrArg Request.theirUser request).trans h.user
  device d known := h.device d (device ▸ known)
  kept := sasLost.trans h.kept
  early := theirDone.trans h.early
  free := held.trans h.free

/-- A side that comes to an end stops at the stage whose steps it told. -/
theorem stands_of_terminal (stage : Stage) (terminal : v.isTerminal = true)
    (fits : stage.Fits (us.before them))
    (sent : told = stage.sent role ∨ told = stage.sent role ++ [.cancel])
    (taken : stage.taken role <+: heard)
    (calm : ∀ content isOwn, v.state = .cancelled content isOwn → Calm content)
    (done : v.state = .done → .done ∈ told ∧ .done ∈ heard) : Stands us them role v told heard :=
  ⟨stage, .inr ⟨.inr terminal, fits, sent, taken, calm, done⟩⟩

/-- A cancelled side stops at the stage whose steps it told. -/
theorem stands_of_cancelled (stage : Stage) {content : CancelContent} {isOwn : Bool}
    (state : v.state = .cancelled content isOwn) (calm : Calm content)
    (fits : stage.Fits (us.before them))
    (sent : told = stage.sent role ∨ told = stage.sent role ++ [.cancel])
    (taken : stage.taken role <+: heard) : Stands us them role v told heard := by
  refine stands_of_terminal stage ?_ fits sent taken ?_ ?_
  · rw [isTerminal, state]
    rfl
  · intro content' isOwn' same
    rw [state] at same
    cases same
    exact calm
  · intro done
    rw [state] at done
    cases done

/-- A side that never hears whether its trust is recorded stops. -/
theorem stands_of_held (stage : Stage) (held : v.held = true)
    (running : v.state.isRunning = true) (fits : stage.Fits (us.before them))
    (sent : told = stage.sent role) (taken : stage.taken role <+: heard) :
    Stands us them role v told heard := by
  refine ⟨stage, .inr ⟨.inl held, fits, .inl sent, taken, ?_, ?_⟩⟩
  · intro content isOwn state
    rw [state] at running
    cases running
  · intro state
    rw [state] at running
    cases running

namespace Going

/-- A side that goes on counts the steps that come in. -/
theorem counted (h : Going us them role v told heard stage) (op : Operation) :
    Going us them role (v.counted op) told heard stage where
  sound := h.sound.congr (by simp) (by simp) (by simp) (by simp) (by simp) (by simp)
  known unknown := h.known (by simpa using unknown)
  fits := h.fits
  position := by
    cases h.position with
    | requested state none => exact .requested (by simpa using state) (by simpa using none)
    | ready state none => exact .ready (by simpa using state) (by simpa using none)
    | running state machine at_ =>
      exact .running (by simpa using state) (by simpa using machine) at_
    | finishing state => exact .finishing (by simpa using state)
  sent := h.sent
  taken := h.taken

theorem not_terminal (h : Going us them role v told heard stage) : v.isTerminal = false := by
  cases h.position with
  | requested state =>
    rw [isTerminal, state]
    cases role <;> rfl
  | ready state => rw [isTerminal, state]; rfl
  | running state => exact State.isTerminal_of_isRunning state
  | finishing state => rw [isTerminal, state]; rfl

/-- A side that goes on runs its method only in a run. -/
theorem run_of_isRunning (h : Going us them role v told heard stage)
    (state : v.state.isRunning = true) : ∃ starter raced point m,
      stage = .running starter raced point ∧ v.machine = some m ∧ At starter point m := by
  cases h.position with
  | requested other => cases role <;> simp [other, Role.request, State.isRunning] at state
  | ready other => simp [other, State.isRunning] at state
  | running _ machine at_ => exact ⟨_, _, _, _, rfl, machine, at_⟩
  | finishing other => simp [other, State.isRunning] at state

/-- A side whose run goes on stays sound. -/
theorem running (h : Going us them role v told heard stage) {starter raced : Bool} {point : Point}
    {m : Sas.Machine} (state : v.state.isRunning = true)
    (at_ : At starter point m)
    (fits : (Stage.running starter raced point).Fits (us.before them)) :
    Going us them role { v with machine := some m }
      ((Stage.running starter raced point).sent role)
      ((Stage.running starter raced point).taken role) (.running starter raced point) where
  sound := h.sound.congr rfl rfl rfl rfl rfl rfl
  known unknown := by
    obtain ⟨_, _, _, _, eq, -⟩ := h.run_of_isRunning state
    have requested := (h.known unknown).1
    rw [eq] at requested
    cases requested
  fits := fits
  position := .running state rfl at_
  sent := rfl
  taken := rfl

/-- A side that finishes waits for the counterpart to do so. -/
theorem completed {starter raced : Bool} {point : Point} {m : Option Sas.Machine}
    (h : Going us them role v told heard (.running starter raced point)) :
    Going us them role (Progress.completed { v with machine := m })
      ((Stage.finishing starter raced).sent role) ((Stage.finishing starter raced).taken role)
      (.finishing starter raced) where
  sound := by
    apply h.sound.congr <;> simp [Progress.completed, release]
  known unknown := by
    cases (h.known (by simpa [Progress.completed, release] using unknown)).1
  fits := h.fits
  position := by
    refine .finishing ((enter_state _ _).trans (if_neg ?_))
    rw [Bool.not_eq_true]
    exact h.sound.early
  sent := rfl
  taken := rfl

/-- What a turn hands over, and what follows it, is told after what was told before. -/
theorem told_of_turn (h : Going us them role v told heard stage) {starter raced : Bool}
    {point point' : Point} (eq : stage = .running starter raced point) {turn : Sas.Turn}
    {outbound : List Effect} (rest : List Effect) (steps : stepsOf outbound = turn.outbound)
    (sent : point'.sent starter raced = point.sent starter raced ++ turn.outbound.map (·.kind)) :
    told ++ (stepsOf (outbound ++ rest)).map (·.kind) =
      (Stage.running starter raced point').sent role ++ (stepsOf rest).map (·.kind) := by
  subst eq
  have before : told = Stage.readiness role ++ point.sent starter raced := h.sent
  have after : (Stage.running starter raced point').sent role =
      Stage.readiness role ++ point'.sent starter raced := rfl
  rw [stepsOf_append, steps, List.map_append, before, after, sent]
  simp only [List.append_assoc]

/-- A turn of the machine. -/
theorem turn (h : Going us them role v told heard stage) {m : Sas.Machine} {input : Sas.Input}
    {d : Sas.Machine.Drawn} (state : v.state.isRunning = true) (machine : v.machine = some m)
    (change : m.Change source input d)
    (followed : Followed a { v with machine := some d.machine } d.turn v' effects)
    (awaited : ∀ kind ∈ takes input, stage.awaits role kind = true) (kept : input ≠ .release) :
    Conducts us them role v' told (heard ++ takes input) effects := by
  obtain ⟨starter, raced, point, m', rfl, machine', at_⟩ := h.run_of_isRunning state
  obtain rfl := Option.some.inj (machine'.symm.trans machine)
  have heardEq : heard = Stage.readiness role.other ++ point.taken starter raced := h.taken
  have honest : ∀ {outbound rest : List Effect}, stepsOf outbound = d.turn.outbound →
      (∀ step ∈ stepsOf rest, Honest us step) →
      ∀ step ∈ stepsOf (outbound ++ rest), Honest us step := by
    intro outbound rest steps others step mem
    rw [stepsOf_append, steps] at mem
    exact (List.mem_append.1 mem).elim (At.honest_of_change change step) (others step)
  have still : { v with machine := some d.machine }.state.isRunning = true := state
  cases at_.moved raced change awaited kept with
  | goes point' sent taken verdict at' =>
    have going := h.running state at' h.fits
    cases followed with
    | proceed handed =>
      have steps : stepsOf effects = d.turn.outbound := handed.filterMap_step?
      refine ⟨steps ▸ At.honest_of_change change, .running starter raced point', .inl ?_⟩
      have spoken := h.told_of_turn rfl [] steps sent
      rw [List.append_nil] at spoken
      rw [spoken, heardEq, List.append_assoc, ← taken]
      exact (List.append_nil _).symm ▸ going
    | recorded _ other | refused _ other | pending _ other | cancelled _ other =>
      exact absurd (verdict.symm.trans other) (by simp)
  | cancels point' content sent taken verdict calm =>
    cases followed with
    | proceed _ other | recorded _ other | refused _ other | pending _ other =>
      exact absurd (verdict.symm.trans other) (by simp)
    | cancelled handed same =>
      obtain rfl := Sas.Verdict.cancel.inj (verdict.symm.trans same)
      have steps := handed.filterMap_step?
      refine ⟨honest steps (by simpa [stepsOf, Effect.step?] using honest_cancel calm), ?_⟩
      refine stands_of_cancelled (.running starter raced point') (enter_state _ _) calm
        h.fits (.inr (h.told_of_turn rfl _ steps sent)) ?_
      rw [heardEq, List.append_assoc]
      exact (List.prefix_append_right_inj _).2 taken
  | verifies keys sent taken verdict =>
    have already : (Stage.running starter raced .confirmed).taken role <+:
        heard ++ takes input := by
      rw [heardEq, List.append_assoc, ← taken, ← List.append_assoc]
      exact List.prefix_append _ _
    cases followed with
    | proceed _ other | cancelled _ other => exact absurd (verdict.symm.trans other) (by simp)
    | recorded handed same answer =>
      have steps := handed.filterMap_step?
      refine ⟨honest steps (by simpa [stepsOf, Effect.step?] using honest_done us),
        .finishing starter raced, .inl ?_⟩
      rw [h.told_of_turn rfl _ steps sent, heardEq, List.append_assoc, ← taken, ← List.append_assoc]
      exact h.completed
    | @refused _ _ e _ handed same answer =>
      have steps := handed.filterMap_step?
      have calm : Calm (untrusted e) := calm_mk (by decide) _
      refine ⟨honest steps (by simpa [stepsOf, Effect.step?] using honest_cancel calm), ?_⟩
      exact stands_of_cancelled (.running starter raced .confirmed) (enter_state _ _) calm
        h.fits (.inr (h.told_of_turn rfl _ steps sent)) already
    | pending handed same answer =>
      have steps := handed.filterMap_step?
      refine ⟨honest steps (by simp [stepsOf, Effect.step?]), ?_⟩
      refine stands_of_held (.running starter raced .confirmed) rfl still h.fits ?_ already
      exact (h.told_of_turn rfl _ steps sent).trans (List.append_nil _)

/-- A cancellation from our side stops a side where it is. -/
theorem cancels (h : Going us them role v told heard stage) {content : CancelContent}
    (calm : Calm content) {route : Route} {failure : Option TransportError}
    {heard' : List StepKind} (more : heard <+: heard') :
    Conducts us them role (v.enter (.cancelled content true)) told heard'
      [.send route (.cancel content) failure] := by
  refine ⟨by simpa [stepsOf, Effect.step?] using honest_cancel calm, ?_⟩
  exact stands_of_cancelled stage (enter_state _ _) calm h.fits
    (.inr (congrArg (· ++ _) h.sent))
    (h.taken ▸ more)

/-- A side that neither tells nor hears anything stays where it is. -/
theorem stays (h : Going us them role v told heard stage) :
    Conducts us them role v told heard [] :=
  ⟨by simp [stepsOf], stage, .inl ((List.append_nil told).symm ▸ h)⟩

end Going

end DeviceVerification.Peers
