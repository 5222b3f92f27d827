import DeviceVerification.Dictionary

/-!
# The registry of running verifications

A registry has one place for a direct verification, and one place for every request in a room. It
knows verifications by their numbers; a place is emptied only for the verification that has it.
-/

namespace DeviceVerification

/-- The places of the running verifications. -/
structure Registry where
  direct : Option Nat
  /-- The verifications of requests, by room and event. -/
  conversations : List ((String × String) × Nat)
  deriving DecidableEq, Repr

namespace Registry

/-- The registry without verifications. -/
def empty : Registry := ⟨none, []⟩

/-- The verification of a request in a room. -/
def conversation? (r : Registry) (roomId eventId : String) : Option Nat :=
  (r.conversations.find? fun c => c.1 == (roomId, eventId)).map (·.2)

/-- Gives the direct place to a verification. -/
def setDirect (r : Registry) (id : Nat) : Registry := { r with direct := some id }

/-- Gives the place of a request to a verification. -/
def setConversation (r : Registry) (roomId eventId : String) (id : Nat) : Registry :=
  { r with conversations := r.conversations ++ [((roomId, eventId), id)] }

/-- The number of verifications. -/
def size (r : Registry) : Nat := r.direct.toList.length + r.conversations.length

/-- Whether a verification has a place. -/
def contains (r : Registry) (id : Nat) : Bool :=
  r.direct == some id || r.conversations.any fun c => c.2 == id

/-- The registry without a verification; the direct place goes first. -/
def remove (r : Registry) (id : Nat) : Registry :=
  if r.direct = some id then { r with direct := none }
  else { r with conversations := r.conversations.filter fun c => c.2 ≠ id }

end Registry

end DeviceVerification
