import DeviceVerification.Verification.Progress

/-!
# Local actions

What the user, the service and the clock can do to a verification: answer the request, start a
method, drive its run, and cancel. An action that the state does not offer is refused and changes
nothing.
-/

namespace DeviceVerification.Verification.Progress

/-- Refuses an action that the state does not offer. -/
def refuseHere (p : Progress) (action : String) : Outcome :=
  p.refuse (.invalidState action p.verification.state.name)

/-- Answers the counterpart's request. -/
def ready (a : Answers) (p : Progress) : Outcome :=
  let v := p.verification
  if v.state = .theirRequest then
    if v.methods.isEmpty then
      let p := p.cancel a ⟨.unknownMethod, "no supported method requested"⟩
      match p.failure? with
      | some e => p.refuse (.transport e)
      | none =>
        p.refuse (.unsupportedMethod
          (String.intercalate "," (v.request.content.methods.map (·.name))))
    else ((p.enter (.ready v.methods)).send a (.ready ⟨v.own.device, v.methods⟩)).report
  else p.refuseHere "ready"

/-- Starts a method that both sides are ready for. -/
def start (a : Answers) (method : Method) (p : Progress) : Outcome :=
  let v := p.verification
  match v.state, v.context? with
  | .ready methods, context? =>
    if methods.contains method then
      match context? with
      | none => p.refuseHere "start"
      | some context =>
        let machine := Sas.Machine.ownStart v.nextGeneration context v.settings
        let p := p.update fun v =>
          { v with nextGeneration := v.nextGeneration + 1, machine := some machine }.enter
            (.start method v.own.device machine.generation)
        (p.send a (.start machine.start)).report
    else p.refuse (.unsupportedMethod method.name)
  | _, _ => p.refuseHere "start"

/-- What the user can do in a run. -/
inductive SasAction where
  /-- Accepts the counterpart's start. -/
  | accept
  /-- Both devices show the same short code. -/
  | confirm
  /-- The devices show different short codes. -/
  | reject
  deriving DecidableEq, Repr

/-- The name of an action. -/
def SasAction.name : SasAction → String
  | .accept => "accept"
  | .confirm => "confirm"
  | .reject => "reject"

/-- The action with a name. -/
def SasAction.ofName? (name : String) : Option SasAction :=
  [SasAction.accept, .confirm, .reject].find? fun a => a.name == name

/-- The keys that are known of the counterpart's device. -/
def theirKeys (a : Answers) (v : Verification) : Except TrustError (List VerifiableKey) :=
  match v.theirDevice with
  | some device => a.keysOf v.theirUser device
  | none => .ok []

/-- Our own keys and the counterpart's, both as far as they are known. -/
def bothKeys (a : Answers) (v : Verification) :
    Except TrustError (List VerifiableKey × List VerifiableKey) := do
  let own ← a.keysOf v.own.user v.own.device
  let theirs ← theirKeys a v
  .ok (own, theirs)

/-- Accepts the counterpart's start. -/
def acceptStart (a : Answers) (machine : Sas.Machine) (p : Progress) : Outcome :=
  match machine.accept p.source with
  | .ok d => (p.runDrawn a d).report
  | .error e => p.refuse e

/-- Confirms that the short codes are the same. -/
def confirmCodes (a : Answers) (machine : Sas.Machine) (p : Progress) : Outcome :=
  match bothKeys a p.verification with
  | .error e => p.refuse (.trustStore e)
  | .ok (own, theirs) =>
    match machine.confirm own theirs with
    | .ok turn => (p.run a turn).report
    | .error e => p.refuse e

/-- Rejects the short codes. -/
def rejectCodes (a : Answers) (machine : Sas.Machine) (p : Progress) : Outcome :=
  match machine.reject with
  | .ok turn => (p.follow a turn).report
  | .error e => p.refuse e

/-- Acts in the run with a generation. -/
def act (a : Answers) (generation : Nat) (action : SasAction) (p : Progress) : Outcome :=
  match p.verification.state, p.verification.machine with
  | .start _ _ _, some machine =>
    if machine.generation = generation then
      match action with
      | .accept => p.acceptStart a machine
      | .confirm => p.confirmCodes a machine
      | .reject => p.rejectCodes a machine
    else p.refuse .gone
  | .start _ _ _, none => p.refuse .gone
  | _, _ => p.refuseHere action.name

/-- Cancels without telling the counterpart. -/
def abort (content : CancelContent) (p : Progress) : Progress :=
  if p.verification.isTerminal then p else p.enter (.cancelled content true)

/-- Notes that another device of ours answered the request. -/
def yieldToOtherDevice (p : Progress) : Progress :=
  if p.verification.isTerminal then p else p.enter .acceptedByOtherDevice

end DeviceVerification.Verification.Progress
