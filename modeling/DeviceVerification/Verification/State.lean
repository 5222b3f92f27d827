import DeviceVerification.Protocol.Step

/-!
# Where a verification stands

A verification goes from its request over ready and start to done, and can be cancelled on every
part of the way. Terminal states are never left.
-/

namespace DeviceVerification.Verification

/-- Where a verification stands. -/
inductive State where
  /-- We sent the request and wait for an answer. -/
  | ownRequest
  /-- The counterpart sent the request, which we may answer. -/
  | theirRequest
  /-- Both sides are ready to start one of these methods. -/
  | ready (methods : List Method)
  /-- A method runs. The device is the one whose start is in effect; the generation is the one of
  the run. -/
  | start (method : Method) (senderDevice : String) (generation : Nat)
  /-- One of the two done steps is still missing. -/
  | waitForDone (isOwn : Bool)
  | done
  | cancelled (content : CancelContent) (isOwn : Bool)
  /-- Another device of ours answered the request. -/
  | acceptedByOtherDevice
  /-- Our own progress could not be restored. -/
  | undefined
  deriving DecidableEq, Repr

namespace State

/-- Whether nothing follows a state. -/
def isTerminal : State → Bool
  | .done => true
  | .cancelled _ _ => true
  | .acceptedByOtherDevice => true
  | .undefined => true
  | _ => false

/-- Whether the request is not answered yet. -/
def isRequestPhase : State → Bool
  | .ownRequest => true
  | .theirRequest => true
  | _ => false

/-- The generation of the run that a state has. -/
def generation? : State → Option Nat
  | .start _ _ generation => some generation
  | _ => none

/-- The name of a state. -/
def name : State → String
  | .ownRequest => "own_request"
  | .theirRequest => "their_request"
  | .ready _ => "ready"
  | .start _ _ _ => "start"
  | .waitForDone _ => "wait_for_done"
  | .done => "done"
  | .cancelled _ _ => "cancel"
  | .acceptedByOtherDevice => "accepted_by_other_device"
  | .undefined => "undefined"

end State

end DeviceVerification.Verification
