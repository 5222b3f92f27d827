import DeviceVerification.Verification.Replay

/-!
# Operations on a verification

Everything that can happen to a verification is an `Operation`, and `Verification.perform` is its
only way to change. Operations are applied one at a time; behind an answer of the trust store that
never comes, every later one waits.
-/

namespace DeviceVerification.Verification

open Progress (SasAction)

/-- Something that happens to a verification. -/
inductive Operation where
  /-- The user answers the request. -/
  | ready
  /-- The user starts a method. -/
  | start (method : Method)
  /-- The user acts in a run. -/
  | act (generation : Nat) (action : SasAction)
  /-- The verification is cancelled from our side. -/
  | cancel (content : CancelContent)
  /-- The verification is cancelled, and the counterpart is not told. -/
  | abort (content : CancelContent)
  /-- Another device of ours answered the request. -/
  | yieldToOtherDevice
  /-- A step of the counterpart comes in; the device is the one that sent the message, if that is
  known. -/
  | receive (senderDevice : Option String) (step : Step)
  /-- One of our own steps is found in the history. -/
  | replay (step : Step)
  /-- The history is read to its end. -/
  | finishReplay
  deriving DecidableEq

/-- Performs an operation under the given answers of the surroundings. -/
def perform (a : Answers) (op : Operation) (v : Verification) (source : KeySource) : Outcome :=
  let p := Progress.begin v source
  if v.held then ⟨v, source, [], .waiting⟩
  else
    match op with
    | .ready => p.ready a
    | .start method => p.start a method
    | .act generation action => p.act a generation action
    | .cancel content => (p.cancel a content).report
    | .abort content => (p.abort content).silent
    | .yieldToOtherDevice => p.yieldToOtherDevice.silent
    | .receive senderDevice step => (p.receive a senderDevice step).silent
    | .replay step => (p.replay step).silent
    | .finishReplay => p.finishReplay.silent

end DeviceVerification.Verification
