import DeviceVerification.Verification.Basic

/-!
# Showing verifications

What a user interface shows of a verification: its request, its state and the state of its run.
-/

namespace DeviceVerification

/-- The state of a run in JSON. -/
def Sas.State.toJson (s : Sas.State) : Json :=
  .object (("name", .string s.name) :: match s with
    | .accept isOwn => [("is_our_own", .bool isOwn)]
    | .waitForKeys isOwn => [("is_our_own", .bool isOwn)]
    | .comparison decimals indices =>
      [("decimals", decimals.toJson), ("emojis", .array (indices.map Emoji.indexToJson))]
    | _ => [])

namespace Verification

/-- What a state tells beside its name. -/
def details (v : Verification) : List (String × Json) :=
  match v.state with
  | .ready methods => [("methods", Identifier.listToJson methods)]
  | .start method device generation =>
    [("method", method.toJson), ("sender_device", .string device),
      ("sas", (v.sasState generation).toJson)]
  | .waitForDone isOwn => [("is_our_own", .bool isOwn)]
  | .cancelled content isOwn =>
    [("code", content.code.toJson), ("reason", .string content.reason),
      ("is_our_own", .bool isOwn)]
  | _ => []

/-- The state of a verification in JSON. -/
def stateToJson (v : Verification) : Json :=
  .object (("name", .string v.state.name) :: (v.details ++
    (if v.isTerminal then [("terminal", .bool true)] else []) ++
    (if v.state.isRequestPhase then [("request_phase", .bool true)] else [])))

/-- The request of a verification and its counterpart in JSON. The device of the counterpart is not
told while an operation never ends. -/
def toJson (v : Verification) : Json :=
  .object [("tx", v.transaction.toJson), ("is_own", .bool v.request.isOwn),
    ("their_user", .string v.theirUser), ("request", v.request.content.toJson),
    ("timestamp", .nat v.request.content.timestamp.toNat),
    ("their_device",
      if v.held then .object [("stalled", .bool true)]
      else (v.theirDevice.map .string).getD .null)]

end Verification

end DeviceVerification
