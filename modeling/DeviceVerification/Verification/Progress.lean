import DeviceVerification.Error
import DeviceVerification.Verification.Basic

/-!
# Progress of one operation

An operation on a verification sends steps, dismisses devices, asks the trust store and draws key
pairs. What the surroundings answer to that is given as `Answers`; what was asked of them is
recorded as `Effect`s. Failed messages are recorded and change nothing else.
-/

namespace DeviceVerification

/-- What becomes of a request to trust keys. -/
inductive TrustOutcome where
  | recorded
  | refused (e : TrustError)
  /-- No answer ever comes. -/
  | pending
  deriving DecidableEq, Repr

/-- What the surroundings answer during one operation. -/
structure Answers where
  /-- The keys that are known of a device of a user. -/
  keysOf : (user device : String) → Except TrustError (List VerifiableKey)
  /-- What becomes of the request to trust keys of a user. -/
  trusting : (user : String) → List VerifiableKey → TrustOutcome
  /-- Why the n-th message of the operation is not delivered, if it is not. -/
  delivery : Nat → Option TransportError

namespace Verification

/-- What an operation asked of the surroundings. -/
inductive Effect where
  /-- A step went out on a route. -/
  | send (route : Route) (step : Step) (failure : Option TransportError)
  /-- Devices were told that another device was chosen. -/
  | dismiss (devices : List String) (failure : Option TransportError)
  /-- Keys of the counterpart were to be trusted. -/
  | trust (keys : List VerifiableKey) (outcome : TrustOutcome)
  deriving DecidableEq

namespace Effect

/-- The failure of a step that went out. -/
def sendFailure? : Effect → Option TransportError
  | .send _ _ failure => failure
  | _ => none

/-- Whether an effect is a message. -/
def isMessage : Effect → Bool
  | .trust _ _ => false
  | _ => true

/-- The step that an effect hands to the route. -/
def step? : Effect → Option Step
  | .send _ step _ => some step
  | _ => none

end Effect

/-- An operation under way. -/
structure Progress where
  verification : Verification
  source : KeySource
  effects : List Effect

namespace Progress

/-- Before anything was asked. -/
def begin (v : Verification) (source : KeySource) : Progress := ⟨v, source, []⟩

/-- The number of messages so far. -/
def messages (p : Progress) : Nat := p.effects.countP (·.isMessage)

/-- The last failure of a step that was sent. -/
def failure? (p : Progress) : Option TransportError :=
  p.effects.foldl (fun last e => e.sendFailure?.or last) none

/-- Changes the verification. -/
def update (p : Progress) (f : Verification → Verification) : Progress :=
  { p with verification := f p.verification }

/-- Enters a state. -/
def enter (p : Progress) (next : State) : Progress := p.update (·.enter next)

/-- Sends a step. -/
def send (a : Answers) (step : Step) (p : Progress) : Progress :=
  { p with effects := p.effects ++ [.send p.verification.route step (a.delivery p.messages)] }

/-- Cancels, unless nothing follows any more. -/
def cancel (a : Answers) (content : CancelContent) (p : Progress) : Progress :=
  if p.verification.isTerminal then p
  else (p.enter (.cancelled content true)).send a (.cancel content)

/-- Chooses the device of the counterpart and dismisses the other ones. -/
def choose (a : Answers) (device : String) (p : Progress) : Progress :=
  let others := p.verification.route.others device
  let p := p.update fun v => { v with theirDevice := some device, route := v.route.narrow device }
  if others.isEmpty then p
  else { p with effects := p.effects ++ [.dismiss others (a.delivery p.messages)] }

/-- The verification once the keys of the counterpart are trusted. -/
def completed (v : Verification) : Verification :=
  let v := { v.release with ownDone := true }
  v.enter (if v.theirDone then .done else .waitForDone true)

/-- Has the keys of the counterpart trusted, and finishes our side. -/
def complete (a : Answers) (keys : List VerifiableKey) (p : Progress) : Progress :=
  let outcome := a.trusting p.verification.theirUser keys
  let p := { p with effects := p.effects ++ [Effect.trust keys outcome] }
  match outcome with
  | .recorded => (p.update completed).send a .done
  | .refused e => p.cancel a ⟨.user, "failed to persist trust: " ++ e.message⟩
  | .pending => p.update fun v => { v with held := true }

/-- Does what a turn of the machine asks for. -/
def follow (a : Answers) (turn : Sas.Turn) (p : Progress) : Progress :=
  let p := turn.outbound.foldl (fun p step => p.send a step) p
  match turn.verdict with
  | .proceed => p
  | .verified keys => p.complete a keys
  | .cancel content => p.cancel a content

/-- Replaces the machine and does what its turn asks for. -/
def run (a : Answers) (turn : Sas.Machine × Sas.Turn) (p : Progress) : Progress :=
  (p.update fun v => { v with machine := some turn.1 }).follow a turn.2

/-- Takes over a machine and a key source and does what the turn asks for. -/
def runDrawn (a : Answers) (d : Sas.Machine.Drawn) (p : Progress) : Progress :=
  { p with source := d.source }.run a (d.machine, d.turn)

end Progress

/-- What an operation answers. -/
inductive Reply where
  | done
  | refused (e : ActionError)
  /-- No answer ever comes. -/
  | waiting
  deriving DecidableEq, Repr

/-- The end of an operation. -/
structure Outcome where
  verification : Verification
  source : KeySource
  effects : List Effect
  reply : Reply

namespace Progress

/-- The end of an operation that answers whether its steps were delivered. -/
def report (p : Progress) : Outcome :=
  let reply := if p.verification.held then .waiting
    else match p.failure? with
      | some e => .refused (.transport e)
      | none => .done
  ⟨p.verification, p.source, p.effects, reply⟩

/-- The end of an operation that nobody asked for. -/
def silent (p : Progress) : Outcome :=
  ⟨p.verification, p.source, p.effects, if p.verification.held then .waiting else .done⟩

/-- The end of an operation that is refused. -/
def refuse (p : Progress) (e : ActionError) : Outcome :=
  ⟨p.verification, p.source, p.effects, .refused e⟩

end Progress

end Verification

end DeviceVerification
