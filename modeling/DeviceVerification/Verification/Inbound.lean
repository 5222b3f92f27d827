import DeviceVerification.Verification.Actions

/-!
# Steps of the counterpart

`Progress.receive` applies one step that came in. Steps of a device other than the chosen one are
ignored, and so are steps of a run that cannot be restored; a step that the state does not expect
cancels the verification.
-/

namespace DeviceVerification.Verification.Progress

/-- Whether a step belongs to a run. -/
def isRunStep (step : Step) : Bool :=
  match step.kind with
  | .start => true
  | .accept => true
  | .key => true
  | .mac => true
  | _ => false

/-- The cancellation for a step that a state does not expect. -/
def unexpected (step : String) (state : State) : CancelContent :=
  ⟨.unexpectedMessage, "unexpected " ++ step ++ " in state " ++ state.name⟩

/-- The counterpart is ready: its device is chosen, and the common methods are left. -/
def receiveReady (a : Answers) (content : ReadyContent) (p : Progress) : Progress :=
  let methods := commonMethods p.verification.methods content.methods
  if methods.isEmpty then p.cancel a ⟨.unknownMethod, "no common verification method"⟩
  else
    ((p.choose a content.fromDevice).update fun v => { v with methods := methods }).enter
      (.ready methods)

/-- Puts the counterpart's start into effect. -/
def adopt (a : Answers) (content : StartContent) (p : Progress) : Progress :=
  match p.verification.context? with
  | none => p
  | some context =>
    let generation := p.verification.nextGeneration
    let p := p.update fun v => { v with nextGeneration := generation + 1 }
    match Sas.Machine.theirStart generation context p.verification.settings content with
    | .ok machine =>
      (p.update fun v => { v with machine := some machine }).enter
        (.start content.method content.fromDevice generation)
    | .error cancel => p.cancel a cancel

/-- The counterpart starts a method. -/
def receiveStart (a : Answers) (content : StartContent) (p : Progress) : Progress :=
  if p.verification.methods.contains content.method then
    let p := if p.verification.theirDevice.isNone then p.choose a content.fromDevice else p
    p.adopt a content
  else p.cancel a ⟨.unknownMethod, "unsupported method " ++ content.method.name⟩

/-- Whether our own start still waits for its answer. -/
def ownStartPending (v : Verification) : Bool :=
  match v.machine with
  | some m => m.weStarted && m.state == .ownStart
  | none => false

/-- Both sides sent a start: the one of the lower device stays in effect. -/
def receiveSecondStart (a : Answers) (content : StartContent) (p : Progress) : Progress :=
  let v := p.verification
  if ownStartPending v then
    if v.own.before ⟨v.theirUser, content.fromDevice⟩ then p
    else (p.update fun v => { v with machine := none }).adopt a content
  else p.cancel a (unexpected "start" v.state)

/-- Has the machine of the run take a step. -/
def withMachine (a : Answers) (step : String) (f : Sas.Machine → Progress → Progress)
    (p : Progress) : Progress :=
  match p.verification.machine with
  | some machine => f machine p
  | none => p.cancel a (unexpected step p.verification.state)

/-- The counterpart authenticates its keys. -/
def receiveMac (a : Answers) (content : MacContent) (p : Progress) : Progress :=
  match theirKeys a p.verification with
  | .error e => p.cancel a ⟨.user, "failed to read keys: " ++ e.message⟩
  | .ok keys => p.withMachine a "mac" fun m p => p.run a (m.handleMac content keys)

/-- The counterpart cancels. -/
def receiveCancel (content : CancelContent) (p : Progress) : Progress :=
  if p.verification.state = .theirRequest ∧ content.code = .accepted then
    p.enter .acceptedByOtherDevice
  else p.enter (.cancelled content false)

/-- Applies a step of the counterpart's device to a running verification. -/
def apply (a : Answers) (step : Step) (p : Progress) : Progress :=
  let v := p.verification
  match step, v.state with
  | .cancel content, _ => p.receiveCancel content
  | .ready content, .ownRequest => p.receiveReady a content
  | .start content, .ownRequest => p.receiveStart a content
  | .start content, .ready _ => p.receiveStart a content
  | .start content, .start _ _ _ => p.receiveSecondStart a content
  | .accept content, .start _ _ _ =>
    p.withMachine a "accept" fun m p => p.runDrawn a (m.handleAccept content p.source)
  | .key content, .start _ _ _ => p.withMachine a "key" fun m p => p.run a (m.handleKey content)
  | .mac content, .start _ _ _ => p.receiveMac a content
  | .done, .start _ _ _ => p.update fun v => { v with theirDone := true }
  | .done, .waitForDone _ => (p.update fun v => { v with theirDone := true }).enter .done
  | .done, state =>
    if v.sasLost then p.update fun v => { v with theirDone := true }
    else p.cancel a (unexpected "done" state)
  | step, state => p.cancel a (unexpected step.name state)

/-- Whether a step comes from a device other than the counterpart's. The device is the one that sent
the message or, failing that, the one that the step names. -/
def isStray (v : Verification) (senderDevice : Option String) (step : Step) : Bool :=
  match v.theirDevice, senderDevice.or step.fromDevice? with
  | some expected, some sender => expected ≠ sender
  | _, _ => false

/-- Takes a step of the counterpart. -/
def receive (a : Answers) (senderDevice : Option String) (step : Step) (p : Progress) : Progress :=
  if p.verification.isTerminal then p
  else
    let p := p.update fun v => { v with activity := v.activity + 1 }
    if isStray p.verification senderDevice step then p
    else if p.verification.sasLost && isRunStep step then p
    else p.apply a step

end DeviceVerification.Verification.Progress
