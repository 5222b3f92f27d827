import DeviceVerification.Network.Rule

/-!
# Handles

A verification exists as long as somebody refers to it: a user who holds it, a service, a watch, or
an operation that waits. A handle on a run does not keep its verification; an action in a run whose
verification is gone is refused. `Handles` is what the users of a network hold, each verification
and each run by a name.
-/

namespace DeviceVerification

/-- A run of a verification. -/
structure RunHandle where
  /-- The number of the verification. -/
  verification : Nat
  generation : Nat
  deriving DecidableEq, Repr

/-- The run of the current state of a verification. -/
def Pool.currentRun? (p : Pool) (id : Nat) : Option RunHandle :=
  (p.verification? id).bind fun v => v.state.generation?.map fun g => ⟨id, g⟩

/-- What users of a network hold. -/
structure Handles where
  /-- The verifications that have a name. -/
  named : Dictionary Nat
  /-- The runs that have a name. -/
  runs : Dictionary RunHandle
  /-- The verifications whose end is waited for. -/
  awaited : List Nat

namespace Handles

/-- Nobody holds anything. -/
def empty : Handles := ⟨.empty, .empty, []⟩

/-- The first name of a verification. -/
def nameOf? (hs : Handles) (id : Nat) : Option String :=
  (hs.named.entries.find? fun e => e.2 = id).map (·.1)

/-- Whether a verification still exists. -/
def holds (hs : Handles) (n : Network) (id : Nat) : Bool :=
  (hs.nameOf? id).isSome || (n.services.any fun s => s.refersTo id) || n.pool.refersTo id ||
    (hs.awaited.contains id && n.pool.isRunning id)

/-- Acts in a run, if its verification still exists. -/
def actIn (hs : Handles) (n : Network) (run : RunHandle)
    (action : Verification.Progress.SasAction) : Network × Verification.Reply :=
  if hs.holds n run.verification then
    n.onPool (·.perform run.verification (.act run.generation action))
  else (n, .refused .gone)

end Handles

end DeviceVerification
