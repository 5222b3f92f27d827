import DeviceVerification.Verification.Progress

/-!
# Access to a trust store

A store may be out of order: it refuses to write, refuses to read, or never answers a write.
`TrustAccess.absorb` keeps the store in step with what an operation asked of it.
-/

namespace DeviceVerification

/-- How a trust store answers. -/
inductive TrustMode where
  | ordinary
  /-- Writes are refused. -/
  | readOnly
  /-- Reads are refused. -/
  | unreadable
  /-- Writes are never answered. -/
  | stalled
  deriving DecidableEq, Repr

/-- The mode with a name. -/
def TrustMode.ofName? (name : String) : Option TrustMode :=
  match name with
  | "memory" => some .ordinary
  | "read_only" => some .readOnly
  | "fail_get" => some .unreadable
  | "stall" => some .stalled
  | _ => none

/-- A trust store and how it answers. -/
structure TrustAccess where
  store : TrustStore
  mode : TrustMode
  deriving DecidableEq

namespace TrustAccess

/-- The keys that are known of a device of a user. -/
def keysOf (t : TrustAccess) (user device : String) : Except TrustError (List VerifiableKey) :=
  if t.mode = .unreadable then .error (.unavailable "no reads")
  else .ok (t.store.getKeys user device)

/-- What becomes of the request to trust keys of a user. -/
def trusting (t : TrustAccess) (user : String) (keys : List VerifiableKey) : TrustOutcome :=
  match t.mode with
  | .readOnly => .refused (.unavailable "read-only")
  | .stalled => .pending
  | _ =>
    match t.store.setTrusted user keys with
    | .ok _ => .recorded
    | .error e => .refused e

/-- The store after the requests among some effects that were granted. -/
def absorb (t : TrustAccess) (user : String) (effects : List Verification.Effect) : TrustAccess :=
  effects.foldl (fun t e => match e with
    | .trust keys .recorded =>
      match t.store.setTrusted user keys with
      | .ok store => { t with store }
      | .error _ => t
    | _ => t) t

end TrustAccess

end DeviceVerification
