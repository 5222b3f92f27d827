import DeviceVerification.Service.Follower
import DeviceVerification.Service.Pool
import DeviceVerification.Service.Registry

/-!
# The service of a device

A service looks after the verifications of one device and knows them by their numbers. It has a
registry of the running ones, the inboxes of its listeners, and the readers of rooms for single
verifications. `Work` is what a service does at a time: it acts on the pool of all verifications and
hands messages to the network.
-/

namespace DeviceVerification

/-- A look-up that waits for a decryption, with the events since it began. -/
structure Resumption where
  roomId : String
  eventId : String
  entry : Entry
  feed : Feed RoomEvent
  deriving DecidableEq

/-- The state of one device. -/
structure Service where
  own : Identity
  config : VerificationConfig
  settings : Sas.Settings
  /-- Whether listeners are to end. -/
  isStopped : Bool
  registry : Registry
  /-- The verifications that others asked for and that nobody has taken yet. -/
  incoming : Feed Nat
  /-- What listeners have not taken yet of the direct messages. -/
  directInboxes : List (Feed ReceivedDirect)
  /-- What listeners have not taken yet of the events of rooms. -/
  roomInboxes : List (Feed RoomEvent)
  followers : List Follower
  /-- Direct verifications that leave the registry at their end. -/
  finishing : List Nat
  resumptions : List Resumption

/-- A service with the pool of all verifications, and the messages that come of what it does. -/
structure Work where
  /-- The number of the device. -/
  device : Nat
  service : Service
  pool : Pool
  postings : List Posting

namespace Service

/-- The service of a device that knows of no verification yet. -/
def init (own : Identity) (config : VerificationConfig) (settings : Sas.Settings) : Service :=
  { own, config, settings
    isStopped := false
    registry := .empty
    incoming := .empty
    directInboxes := []
    roomInboxes := []
    followers := []
    finishing := []
    resumptions := [] }

/-- The service with one more listener. -/
def listen (s : Service) : Service :=
  { s with
    directInboxes := s.directInboxes ++ [.empty]
    roomInboxes := s.roomInboxes ++ [.empty] }

/-- The service with a reader of a room for a verification. -/
def follow (s : Service) (id : Nat) (reader : Identity) (roomId : String) : Service :=
  { s with followers := s.followers ++ [⟨id, reader, roomId, .opening, [], .empty, false⟩] }

/-- Gives the direct place to a verification. -/
def setDirect (s : Service) (id : Nat) : Service := { s with registry := s.registry.setDirect id }

/-- Gives the place of a request in a room to a verification. -/
def setConversation (s : Service) (roomId eventId : String) (id : Nat) : Service :=
  { s with registry := s.registry.setConversation roomId eventId id }

/-- Takes a verification out of the registry. -/
def unregister (s : Service) (id : Nat) : Service := { s with registry := s.registry.remove id }

/-- Whether something of the service refers to a verification: a place in the registry, an
announcement, or a task. -/
def refersTo (s : Service) (id : Nat) : Bool :=
  s.registry.contains id || s.incoming.items.contains id || s.finishing.contains id ||
    s.followers.any fun f => f.verification == id

end Service

namespace Work

/-- A service that has done nothing yet. -/
def begin (device : Nat) (service : Service) (pool : Pool) : Work := ⟨device, service, pool, []⟩

/-- Changes the service. -/
def update (w : Work) (f : Service → Service) : Work := { w with service := f w.service }

/-- Acts on the pool of all verifications. -/
def onPool {α : Type} (w : Work) (f : Pool → Pool × List Posting × α) : Work × α :=
  let (pool, postings, a) := f w.pool
  ({ w with pool, postings := w.postings ++ postings }, a)

/-- Performs an operation on a verification. -/
def perform (w : Work) (id : Nat) (op : Verification.Operation) : Work × Verification.Reply :=
  w.onPool (·.perform id op)

/-- Adds a verification of the device and gives it a number. -/
def add (w : Work) (v : Verification) : Work × Nat :=
  w.onPool fun p =>
    let (p, id) := p.add w.device v
    (p, [], id)

/-- Why messages of the device fail, if they do. -/
def sendFailure? (w : Work) : Option TransportError := w.pool.sendFailure? w.device w.service.own

/-- Hands a message to the network. -/
def post (w : Work) (message : Outgoing) : Work :=
  { w with postings := w.postings ++ [⟨w.device, w.service.own, message, w.sendFailure?⟩] }

/-! ## Places in the registry -/

/-- The running direct verification. -/
def activeDirect? (w : Work) : Option Nat :=
  w.service.registry.direct.filter fun id => w.pool.isRunning id

/-- The direct verification with a transaction, whether it has ended or not. -/
def directWith? (w : Work) (transactionId : String) : Option Nat :=
  w.service.registry.direct.filter fun id =>
    (w.pool.verification? id).any fun v => v.transaction.id == transactionId

/-- The requests in rooms whose verifications are registered, in order. -/
def activeRequests (w : Work) : List String :=
  (w.service.registry.conversations.filterMap fun c =>
    (w.pool.verification? c.2).map (·.transaction.id)).mergeSort fun a b => a ≤ b

/-- What stands in the way of a verification that wants the direct place. -/
inductive Vacancy where
  | vacant
  /-- Another verification runs there. -/
  | occupied (id : Nat)
  /-- A verification of the same transaction runs there. -/
  | duplicate (id : Nat)
  deriving DecidableEq, Repr

/-- Whether the direct place is free for a verification of a transaction. -/
def directVacancy (w : Work) (t : Transaction) : Vacancy :=
  match w.activeDirect? with
  | none => .vacant
  | some id =>
    if (w.pool.verification? id).any fun v => v.transaction == t then .duplicate id
    else .occupied id

/-! ## Tasks -/

/-- Watches over a verification of the device. -/
def watch (w : Work) (scene : Scene) (policy : TimeoutPolicy) (id : Nat) : Work :=
  { w with pool := w.pool.watch scene policy w.service.config.requestTimeout id }

/-- Watches over a direct verification until its end. -/
def attendDirect (w : Work) (scene : Scene) (id : Nat) : Work :=
  (w.watch scene .fixedFromRequest id).update fun s => { s with finishing := s.finishing ++ [id] }

/-- Watches over a conversation verification and follows its room until its end. -/
def attendConversation (w : Work) (scene : Scene) (roomId : String) (feed : Feed RoomEvent)
    (id : Nat) : Work :=
  (w.watch scene .requestThenInactivity id).update fun s =>
    { s with followers := s.followers ++ [⟨id, s.own, roomId, .opening, [], feed, true⟩] }

/-- Announces a verification that somebody else asked for. -/
def announce (w : Work) (id : Nat) : Work :=
  w.update fun s => { s with incoming := s.incoming.push Feed.verificationCapacity id }

end Work

end DeviceVerification
