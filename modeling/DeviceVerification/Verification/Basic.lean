import DeviceVerification.Sas.Machine
import DeviceVerification.Verification.State

/-!
# Verifications

A `Verification` is the state of one transaction with one counterpart user. It knows how its steps
travel (`Route`), what was agreed so far, and the machine of the run that is going on.
-/

namespace DeviceVerification

/-- How the steps of a verification travel: to devices of the counterpart, or into a room. -/
inductive Route where
  | devices (recipients : List String)
  | room (roomId : String)
  deriving DecidableEq, Repr

namespace Route

/-- The route once a device of the counterpart is chosen. -/
def narrow : Route → String → Route
  | .devices _, device => .devices [device]
  | .room roomId, _ => .room roomId

/-- The devices that no longer take part once a device is chosen. -/
def others : Route → String → List String
  | .devices recipients, device => recipients.filter fun d => d ≠ device
  | .room _, _ => []

end Route

/-- The methods that can be run. -/
def supportedMethods : List Method := [.sas]

/-- The methods of the first list that the second one has too, in their order. -/
def commonMethods (ours theirs : List Method) : List Method :=
  ours.filter fun m => theirs.contains m

/-- The state of one transaction. -/
structure Verification where
  own : Identity
  request : Request
  settings : Sas.Settings
  route : Route
  state : Verification.State
  /-- The device of the counterpart, once it is known. -/
  theirDevice : Option String
  /-- The methods that may still be started. -/
  methods : List Method
  machine : Option Sas.Machine
  /-- The generation of the next run. -/
  nextGeneration : Nat
  ownDone : Bool
  theirDone : Bool
  /-- Own steps of a run were found in the history, and the run cannot be restored. -/
  sasLost : Bool
  /-- The number of steps that came in while the verification was running. -/
  activity : Nat
  /-- An answer of the trust store never came, and everything else waits behind it. -/
  held : Bool
  deriving DecidableEq

namespace Verification

/-- The verification of a request that nobody has answered. -/
def ofRequest (own : Identity) (settings : Sas.Settings) (route : Route) (request : Request) :
    Verification :=
  { own, request, settings, route
    state := if request.isOwn then .ownRequest else .theirRequest
    theirDevice := if request.isOwn then none else some request.content.fromDevice
    methods := commonMethods request.content.methods supportedMethods
    machine := none
    nextGeneration := 1
    ownDone := false
    theirDone := false
    sasLost := false
    activity := 0
    held := false }

/-- The counterpart user. -/
def theirUser (v : Verification) : String := v.request.theirUser

/-- What the messages of a verification refer to. -/
def transaction (v : Verification) : Transaction := v.request.transaction

/-- Whether nothing follows any more. -/
def isTerminal (v : Verification) : Bool := v.state.isTerminal

/-- Forgets everything that is secret in the run. -/
def release (v : Verification) : Verification := { v with machine := v.machine.map (·.release) }

/-- The verification in another state. A terminal state forgets the secrets of the run. -/
def enter (v : Verification) (next : State) : Verification :=
  if next.isTerminal then { v.release with state := next } else { v with state := next }

/-- Who runs a method, once the device of the counterpart is known. -/
def context? (v : Verification) : Option Sas.Context :=
  v.theirDevice.map fun device => ⟨v.own, ⟨v.theirUser, device⟩, v.transaction⟩

/-- The state of the run with a generation. A run is only ever replaced while its start waits for an
answer, so every other generation stays at its own start. -/
def sasState (v : Verification) (generation : Nat) : Sas.State :=
  match v.machine with
  | some m => if m.generation = generation then m.state else .ownStart
  | none => .ownStart

end Verification

end DeviceVerification
