import DeviceVerification.Config
import DeviceVerification.Protocol.Message

/-!
# Devices and requests

A device is known by its user and its id. A request is active for a while after it was sent; one
that comes from the future is active if it is not too far ahead.
-/

namespace DeviceVerification

/-- A device of a user. -/
structure Identity where
  user : String
  device : String
  deriving DecidableEq, Repr

namespace Identity

/-- The written form of a device. -/
def text (i : Identity) : String := i.user ++ "/" ++ i.device

/-- The order of devices: by user first. -/
def order (a b : Identity) : Ordering := (compare a.user b.user).then (compare a.device b.device)

/-- Whether a device comes before another one. -/
def before (a b : Identity) : Bool := a.order b == .lt

end Identity

/-- The request that a verification is about. -/
structure Request where
  content : RequestContent
  /-- Whether this device sent it. -/
  isOwn : Bool
  /-- The user on the other side. -/
  theirUser : String
  transaction : Transaction
  deriving DecidableEq, Repr

/-- Milliseconds of a number of seconds, as far as 64 bits hold them. -/
def milliseconds (seconds : UInt64) : Nat := min (seconds.toNat * 1000) Number.maxInteger

/-- Whether a request of some time may still be answered now. -/
def isRequestActive (timestamp now timeout maxFutureSkew : UInt64) : Bool :=
  if now < timestamp then
    decide (timestamp.toNat - now.toNat ≤ milliseconds maxFutureSkew)
  else decide (now.toNat - timestamp.toNat < milliseconds timeout)

end DeviceVerification
