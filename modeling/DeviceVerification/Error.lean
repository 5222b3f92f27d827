import DeviceVerification.Trust.Store

/-!
# Why an action is refused

The causes for which a message cannot be delivered and a local action is refused, and their wording.
-/

namespace DeviceVerification

/-- Why a message is not delivered or a history not read. -/
inductive TransportError where
  | delivery (reason : String)
  | unknownConversation (roomId : String)
  | unknownEvent (roomId eventId : String)
  deriving DecidableEq, Repr

/-- The code of a transport error. -/
def TransportError.code : TransportError → String
  | .delivery _ => "Transport.Delivery"
  | .unknownConversation _ => "Transport.UnknownConversation"
  | .unknownEvent _ _ => "Transport.UnknownEvent"

/-- The wording of a transport error. -/
def TransportError.message : TransportError → String
  | .delivery reason => "failed to deliver message: " ++ reason
  | .unknownConversation roomId => "unknown conversation: " ++ roomId
  | .unknownEvent roomId eventId => "unknown event " ++ eventId ++ " in " ++ roomId

/-- Why a local action is refused. -/
inductive ActionError where
  /-- The state does not offer the action. -/
  | invalidState (action state : String)
  /-- The verification or its run is no longer there. -/
  | gone
  /-- A request needs at least one device to go to. -/
  | noRecipients
  /-- The event is not a verification request. -/
  | notARequest (roomId eventId : String)
  /-- The methods are not available. -/
  | unsupportedMethod (methods : String)
  | transport (e : TransportError)
  | trustStore (e : TrustError)
  deriving DecidableEq, Repr

/-- The code of a refusal. -/
def ActionError.code : ActionError → String
  | .invalidState _ _ => "InvalidState"
  | .gone => "Gone"
  | .noRecipients => "NoRecipients"
  | .notARequest _ _ => "NotARequest"
  | .unsupportedMethod _ => "UnsupportedMethod"
  | .transport e => e.code
  | .trustStore _ => "TrustStore"

/-- The wording of a refusal. -/
def ActionError.message : ActionError → String
  | .invalidState action state => "cannot " ++ action ++ " in state " ++ state
  | .gone => "verification is gone"
  | .noRecipients => "no devices to send the request to"
  | .notARequest roomId eventId =>
    "event " ++ eventId ++ " in " ++ roomId ++ " is not a verification request"
  | .unsupportedMethod methods => "unsupported verification method: " ++ methods
  | .transport e => "transport error: " ++ e.message
  | .trustStore e => "trust store error: " ++ e.message

end DeviceVerification
