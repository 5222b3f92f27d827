import DeviceVerification.Verification.Inbound

/-!
# Own steps in the history

A verification that is picked up from the history of a room finds its own earlier steps there.
`Progress.replay` restores what they tell; a run cannot be restored, and `Progress.finishReplay`
settles what becomes of a verification that lost one.
-/

namespace DeviceVerification.Verification.Progress

/-- Takes one of our own steps from the history. -/
def replay (step : Step) (p : Progress) : Progress :=
  let v := p.verification
  if v.isTerminal then p
  else
    match step with
    | .ready content =>
      if v.state = .theirRequest then p.enter (.ready (commonMethods v.methods content.methods))
      else p
    | .done => p.update fun v => { v with ownDone := true }
    | .cancel content => p.enter (.cancelled content true)
    | _ => p.update fun v => { v.release with sasLost := true }

/-- What becomes of a verification whose run was lost, given whose done steps were seen. -/
def settled : (ownDone theirDone : Bool) → State
  | true, true => .done
  | true, false => .waitForDone true
  | false, _ => .undefined

/-- Takes the end of the history. -/
def finishReplay (p : Progress) : Progress :=
  let v := p.verification
  if v.isTerminal || !v.sasLost then p else p.enter (settled v.ownDone v.theirDone)

end DeviceVerification.Verification.Progress
