import DeviceVerification.Network.Message
import DeviceVerification.Network.Timeline
import DeviceVerification.Trust.Access
import DeviceVerification.Verification.Operation
import DeviceVerification.Verification.Watchdog

/-!
# All verifications

The verifications of all devices are in one pool and have numbers, so that anybody may refer to any
of them. What an operation needs, such as the trust store, it takes from the device that the
verification belongs to, and that device sends its messages. `Pool.perform` is the only way to
change a verification. The watches over all verifications are in the pool as well, because they
share one timer.
-/

namespace DeviceVerification

/-- What a device offers to its verifications. -/
structure Surroundings where
  trust : TrustAccess
  source : KeySource
  /-- Whether all messages of the device fail. -/
  sendsFail : Bool

namespace Surroundings

/-- Why messages of the device fail, if they do. -/
def sendFailure? (s : Surroundings) (own : Identity) : Option TransportError :=
  if s.sendsFail then some (.delivery ("sends from " ++ own.text ++ " are disabled")) else none

/-- What the device answers to an operation. -/
def answers (s : Surroundings) (own : Identity) : Answers :=
  ⟨s.trust.keysOf, s.trust.trusting, fun _ => s.sendFailure? own⟩

/-- The surroundings after an operation on a verification with a user. -/
def absorb (s : Surroundings) (user : String) (o : Verification.Outcome) : Surroundings :=
  { s with source := o.source, trust := s.trust.absorb user o.effects }

end Surroundings

/-- The message that takes a step of a verification along a route. -/
def outgoing (v : Verification) (route : Route) (step : Step) : Outgoing :=
  match route with
  | .devices devices => .direct v.theirUser devices ⟨v.transaction.id, .step step⟩
  | .room roomId => .room roomId (.step v.transaction.id step)

/-- The step that tells devices that another one was chosen. -/
def dismissal : Step := .cancel ⟨.accepted, "verification was accepted by another device"⟩

/-- The message of an effect on a verification of a device, if it has one. -/
def posting? (device : Nat) (v : Verification) : Verification.Effect → Option Posting
  | .send route step failure => some ⟨device, v.own, outgoing v route step, failure⟩
  | .dismiss devices failure =>
    some ⟨device, v.own, outgoing v (.devices devices) dismissal, failure⟩
  | .trust _ _ => none

/-- What a direct message does to a verification, which takes steps of its transaction from its
counterpart. -/
def directOperationOf (v : Verification) (m : ReceivedDirect) : Option Verification.Operation :=
  match m.message.body with
  | .step step =>
    if m.message.transactionId = v.transaction.id ∧ m.sender = v.theirUser then
      some (.receive (some m.senderDevice) step)
    else none
  | .request _ => none

/-- What a service sees of the world around it. -/
structure Scene where
  /-- Milliseconds of the wall clock. -/
  clock : UInt64
  /-- Milliseconds of the timer, which never goes back. -/
  timer : Nat
  timelines : Timelines

/-- The verifications of all devices. -/
structure Pool where
  /-- What each device offers. -/
  surroundings : List Surroundings
  /-- The verifications in the order of their numbers, each with the number of its device. -/
  verifications : List (Nat × Verification)
  /-- The watches over verifications, in the order of their deadlines. -/
  watchdogs : List (Nat × Watchdog)

namespace Pool

/-- A pool without verifications. -/
def init (surroundings : List Surroundings) : Pool := ⟨surroundings, [], []⟩

/-- A verification by its number. -/
def verification? (p : Pool) (id : Nat) : Option Verification := p.verifications[id]?.map (·.2)

/-- Whether a verification has not ended. -/
def isRunning (p : Pool) (id : Nat) : Bool := (p.verification? id).any fun v => !v.isTerminal

/-- Whether something in the pool refers to a verification: a watch, or an operation that never
ends. -/
def refersTo (p : Pool) (id : Nat) : Bool :=
  (p.watchdogs.any fun w => w.1 == id) || (p.verification? id).any fun v => v.held

/-- The pool with another verification of a device, and the number of it. -/
def add (p : Pool) (device : Nat) (v : Verification) : Pool × Nat :=
  ({ p with verifications := p.verifications ++ [(device, v)] }, p.verifications.length)

/-- The pool with one more watch over a verification. It comes after those whose deadline is not
later. -/
def addWatchdog (p : Pool) (id : Nat) (w : Watchdog) : Pool :=
  let isDue (e : Nat × Watchdog) : Bool := e.2.deadline ≤ w.deadline
  { p with watchdogs := p.watchdogs.takeWhile isDue ++ (id, w) :: p.watchdogs.dropWhile isDue }

/-- Watches over a verification from now on. -/
def watch (p : Pool) (scene : Scene) (policy : TimeoutPolicy) (timeout : UInt64) (id : Nat) :
    Pool :=
  match p.verification? id with
  | none => p
  | some v =>
    p.addWatchdog id (.arm policy timeout v.request.content.timestamp scene.clock scene.timer)

/-- Changes what a device offers. -/
def updateSurroundings (p : Pool) (device : Nat) (f : Surroundings → Surroundings) : Pool :=
  { p with surroundings := p.surroundings.modify device f }

/-- Why messages of a device fail, if they do. -/
def sendFailure? (p : Pool) (device : Nat) (own : Identity) : Option TransportError :=
  p.surroundings[device]?.bind (·.sendFailure? own)

/-- Performs an operation on a verification of a device, whether it is in the pool or not. -/
def performAlone? (p : Pool) (device : Nat) (v : Verification) (op : Verification.Operation) :
    Option (Pool × List Posting × Verification.Outcome) :=
  p.surroundings[device]?.map fun s =>
    let o := v.perform (s.answers v.own) op s.source
    ({ p with surroundings := p.surroundings.set device (s.absorb v.theirUser o) },
      o.effects.filterMap (posting? device v), o)

/-- Performs an operation on a verification; its messages come in their order. -/
def perform (p : Pool) (id : Nat) (op : Verification.Operation) :
    Pool × List Posting × Verification.Reply :=
  match p.verifications[id]? with
  | none => (p, [], .refused .gone)
  | some (device, v) =>
    match p.performAlone? device v op with
    | none => (p, [], .refused .gone)
    | some (p, postings, o) =>
      ({ p with verifications := p.verifications.set id (device, o.verification) }, postings,
        o.reply)

/-- Hands a direct message to a verification. -/
def dispatch (p : Pool) (id : Nat) (m : ReceivedDirect) :
    Pool × List Posting × Verification.Reply :=
  match (p.verification? id).bind fun v => directOperationOf v m with
  | some op => p.perform id op
  | none => (p, [], .done)

end Pool

end DeviceVerification
