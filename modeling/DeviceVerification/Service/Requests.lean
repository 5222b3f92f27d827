import DeviceVerification.Service.Basic

/-!
# Beginning a verification

Verifications begin with a request, ours or somebody else's. A device runs one direct verification
at a time: a request of ours cancels the one that runs, and a request of others is turned down as
long as one runs. Requests in rooms can also be picked up from the history.
-/

namespace DeviceVerification

/-- What a service answers to its user. -/
inductive Response (α : Type) where
  | done (a : α)
  | refused (e : ActionError)
  /-- The answer does not come yet. -/
  | waiting
  deriving DecidableEq, Repr

namespace Service

/-- A request of this device at some time. -/
def requestContent (s : Service) (scene : Scene) : RequestContent :=
  ⟨s.own.device, supportedMethods, scene.clock⟩

/-- Whether a request of some time may still be answered. -/
def isActive (s : Service) (scene : Scene) (timestamp : UInt64) : Bool :=
  isRequestActive timestamp scene.clock s.config.requestTimeout s.config.maxFutureSkew

/-- The verification of a direct request. -/
def directVerification (s : Service) (content : RequestContent) (isOwn : Bool)
    (theirUser transactionId : String) (devices : List String) : Verification :=
  .ofRequest s.own s.settings (.devices devices)
    ⟨content, isOwn, theirUser, .direct transactionId⟩

/-- The verification of a request in a room. -/
def conversationVerification (s : Service) (content : RequestContent) (isOwn : Bool)
    (theirUser roomId eventId : String) : Verification :=
  .ofRequest s.own s.settings (.room roomId)
    ⟨content, isOwn, theirUser, .conversation eventId⟩

end Service

namespace Work

/-! ## Requests of ours -/

/-- The reason for which a running verification makes way. -/
def replaced : CancelContent := ⟨.user, "replaced by a new verification"⟩

/-- Gives the direct place to a verification and cancels the one that runs there; whether that came
to an end. -/
def displace (w : Work) (id : Nat) : Work × Bool :=
  let displaced := w.activeDirect?
  let w := w.update (·.setDirect id)
  match displaced with
  | none => (w, true)
  | some old =>
    match w.perform old (.cancel replaced) with
    | (w, .waiting) => (w, false)
    | (w, _) => (w, true)

/-- Sends the request of a verification; one that fails ends the verification. -/
def request (w : Work) (content : RequestContent) (theirUser transactionId : String)
    (devices : List String) (id : Nat) : Work × Response Nat :=
  let w := w.post (.direct theirUser devices ⟨transactionId, .request content⟩)
  match w.sendFailure? with
  | none => (w, .done id)
  | some e =>
    let content := ⟨.user, "failed to send request: " ++ e.message⟩
    ((w.perform id (.abort content)).1, .refused (.transport e))

/-- Asks devices of a user for a verification. -/
def requestDevices (w : Work) (scene : Scene) (transactionId theirUser : String)
    (devices : List String) : Work × Response Nat :=
  if devices.isEmpty then (w, .refused .noRecipients)
  else
    let content := w.service.requestContent scene
    let (w, id) := w.add (w.service.directVerification content true theirUser transactionId devices)
    match w.displace id with
    | (w, false) => (w, .waiting)
    | (w, true) => (w.attendDirect scene id).request content theirUser transactionId devices id

/-- Asks other devices of our own user for a verification. -/
def requestOwnDevices (w : Work) (scene : Scene) (transactionId : String) (devices : List String) :
    Work × Response Nat :=
  w.requestDevices scene transactionId w.service.own.user
    (devices.filter fun d => d ≠ w.service.own.device)

/-- Gives the place of its request to a conversation verification and attends to it, if the place is
free. -/
def register (w : Work) (scene : Scene) (roomId eventId : String) (feed : Feed RoomEvent)
    (id : Nat) : Work × Bool :=
  match w.service.registry.conversation? roomId eventId with
  | some _ => (w, false)
  | none =>
    let w := w.update (·.setConversation roomId eventId id)
    (w.attendConversation scene roomId feed id, true)

/-- Begins the verification of a request that we sent into a room. -/
def beginOwn (w : Work) (scene : Scene) (content : RequestContent) (theirUser roomId : String)
    (sent : RoomEvent) : Work × Nat :=
  let (w, id) :=
    w.add (w.service.conversationVerification content true theirUser roomId sent.eventId)
  ((w.register scene roomId sent.eventId (Feed.empty.push Feed.messageCapacity sent) id).1, id)

/-! ## Requests of others -/

/-- The reason for which a request is turned down. -/
def busy : CancelContent := ⟨.user, "another verification is in progress"⟩

/-- Turns down a request, whose verification nobody gets to know. -/
def turnDown (w : Work) (v : Verification) : Work :=
  match w.pool.performAlone? w.device v (.cancel busy) with
  | none => w
  | some (pool, postings, _) => { w with pool, postings := w.postings ++ postings }

/-- Takes a direct request. -/
def takeRequest (w : Work) (scene : Scene) (sender senderDevice transactionId : String)
    (content : RequestContent) : Work :=
  let s := w.service
  if sender = s.own.user ∧ senderDevice = s.own.device then w
  else if s.isActive scene content.timestamp then
    let v := s.directVerification content false sender transactionId [senderDevice]
    match w.directVacancy v.transaction with
    | .duplicate _ => w
    | .occupied _ => w.turnDown v
    | .vacant =>
      let (w, id) := w.add v
      ((w.update (·.setDirect id)).attendDirect scene id).announce id
  else w

/-- Takes a direct message. -/
def takeDirect (w : Work) (scene : Scene) (m : ReceivedDirect) : Work × Verification.Reply :=
  match m.message.body with
  | .request content =>
    (w.takeRequest scene m.sender m.senderDevice m.message.transactionId content, .done)
  | .step _ =>
    match w.directWith? m.message.transactionId with
    | none => (w, .done)
    | some id => w.onPool (·.dispatch id m)

/-- Takes an event of a room: requests to us that are still active begin a verification. -/
def takeEvent (w : Work) (scene : Scene) (e : RoomEvent) : Work :=
  let s := w.service
  match e.message with
  | some (.request asked content) =>
    if e.sender ≠ s.own.user ∧ asked = s.own.user ∧ s.isActive scene content.timestamp = true ∧
        (s.registry.conversation? e.roomId e.eventId).isNone = true then
      let (w, id) :=
        w.add (s.conversationVerification content false e.sender e.roomId e.eventId)
      (w.register scene e.roomId e.eventId .empty id).1.announce id
    else w
  | _ => w

/-! ## Requests in the history -/

/-- Begins the verification of a request that was found in the history; none if it is not ours to
answer. -/
def resume (w : Work) (scene : Scene) (roomId eventId : String) (feed : Feed RoomEvent)
    (e : RoomEvent) : Work × Response (Option Nat) :=
  let s := w.service
  let attend (theirUser : String) (isOwn : Bool) (content : RequestContent) :
      Work × Response (Option Nat) :=
    match s.registry.conversation? roomId eventId with
    | some id => (w, .done (some id))
    | none =>
      let (w, id) := w.add (s.conversationVerification content isOwn theirUser roomId eventId)
      ((w.register scene roomId eventId feed id).1, .done (some id))
  match e.message with
  | some (.request asked content) =>
    if e.sender = s.own.user then
      if content.fromDevice = s.own.device then attend asked true content else (w, .done none)
    else if asked = s.own.user then attend e.sender false content
    else (w, .done none)
  | _ => (w, .refused (.notARequest roomId eventId))

/-- Looks up the verification of a request in a room, and picks it up from the history if it does
not run. -/
def lookUp (w : Work) (scene : Scene) (roomId eventId : String) : Work × Response (Option Nat) :=
  match w.service.registry.conversation? roomId eventId with
  | some id => (w, .done (some id))
  | none =>
    match scene.timelines.readFrom roomId eventId with
    | .error e => (w, .refused (.transport e))
    | .ok [] => (w, .refused (.notARequest roomId eventId))
    | .ok (entry :: _) =>
      match scene.timelines.resolve entry with
      | .event e => w.resume scene roomId eventId .empty e
      | .lost => (w, .refused (.notARequest roomId eventId))
      | .waiting =>
        (w.update fun s =>
          { s with resumptions := s.resumptions ++ [⟨roomId, eventId, entry, .empty⟩] }, .waiting)

end Work

end DeviceVerification
