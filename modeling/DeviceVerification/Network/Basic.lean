import DeviceVerification.Network.Message
import DeviceVerification.Service.Tasks

/-!
# Devices on one network

A network connects the services of any number of devices. Direct messages go to the inboxes of the
devices they are addressed to; messages into rooms are appended to the history of the room and go to
everybody who follows it. `Network.act` has one device act; `Network.settle` then lets all devices
work until each of them waits. Time passes only in `Network.advance`.
-/

namespace DeviceVerification

/-- What becomes of a direct message on its way: another one is delivered, or none. -/
def Interceptor := ReceivedDirect → Option ReceivedDirect

/-- Devices on one network. -/
structure Network where
  services : List Service
  pool : Pool
  timelines : Timelines
  /-- The number of event ids that were given out. -/
  events : Nat
  /-- What stands between the senders and receivers of direct messages. -/
  rules : Interceptor
  /-- The number of direct messages that were dropped on their way. -/
  dropped : Nat
  clock : UInt64
  timer : Nat
  /-- All messages that devices handed to the network. -/
  posted : List Posting

namespace Network

/-- Devices that have not sent anything. -/
def init (devices : List (Service × Surroundings)) (clock : UInt64) : Network :=
  { clock
    services := devices.map (·.1)
    pool := .init (devices.map (·.2))
    timelines := .empty
    events := 0
    rules := some
    dropped := 0
    timer := 0
    posted := [] }

/-- What all services see. -/
def scene (n : Network) : Scene := ⟨n.clock, n.timer, n.timelines⟩

/-- Changes all services. -/
def updateAll (n : Network) (f : Service → Service) : Network :=
  { n with services := n.services.map f }

/-- Changes one service. -/
def updateService (n : Network) (i : Nat) (f : Service → Service) : Network :=
  { n with services := n.services.modify i f }

/-! ## Delivery -/

/-- Puts a direct message into the inboxes of a device. -/
def deliver (n : Network) (recipient : Identity) (m : ReceivedDirect) : Network :=
  n.updateAll fun s =>
    if s.own = recipient then
      { s with directInboxes := s.directInboxes.map fun f => f.push Feed.messageCapacity m }
    else s

/-- Sends a direct message to one device, past what stands in its way. -/
def pass (n : Network) (recipient : Identity) (m : ReceivedDirect) : Network :=
  match n.rules m with
  | some m => n.deliver recipient m
  | none => { n with dropped := n.dropped + 1 }

/-- Sends a direct message of a device to devices of a user. -/
def sendDirect (n : Network) (sender : Identity) (user : String) (devices : List String)
    (m : DirectMessage) : Network :=
  devices.foldl (fun n device => n.pass ⟨user, device⟩ ⟨sender.user, sender.device, m⟩) n

/-- Gives out an event id. -/
def nextEventId (n : Network) : String × Network :=
  ("$event" ++ Decimal.text (n.events + 1), { n with events := n.events + 1 })

/-- Brings an event to everybody who follows rooms. -/
def broadcast (n : Network) (e : RoomEvent) : Network :=
  n.updateAll fun s =>
    { s with
      roomInboxes := s.roomInboxes.map fun f => f.push Feed.messageCapacity e
      followers := s.followers.map fun f => { f with feed := f.feed.push Feed.messageCapacity e }
      resumptions := s.resumptions.map fun r =>
        { r with feed := r.feed.push Feed.messageCapacity e } }

/-- Appends an event to its room and brings it to everybody who follows rooms. -/
def pushEvent (n : Network) (e : RoomEvent) : Network :=
  { n with timelines := n.timelines.append e.roomId (.event e) }.broadcast e

/-- Appends an event that is being decrypted to a room, and tells the place of its decryption. -/
def pushPending (n : Network) (roomId eventId : String) : Nat × Network :=
  (n.timelines.decryptions.length,
    { n with timelines := n.timelines.appendPending roomId eventId })

/-- Decrypts an event; whether another result may follow. -/
def decrypt (n : Network) (place : Nat) (e : RoomEvent) (isOpen : Bool) : Network :=
  { n with timelines := n.timelines.decrypt place ⟨some e, isOpen⟩ }

/-- Gives up a decryption; a result that came before stays. -/
def giveUp (n : Network) (place : Nat) : Network :=
  let event := (n.timelines.decryptions[place]?).bind (·.event)
  { n with timelines := n.timelines.decrypt place ⟨event, false⟩ }

/-- Sends a message of a user into a room. -/
def sendRoom (n : Network) (sender roomId : String) (m : ConversationMessage) :
    RoomEvent × Network :=
  let (eventId, n) := n.nextEventId
  let e : RoomEvent := ⟨roomId, eventId, sender, n.clock, some m⟩
  (e, n.pushEvent e)

/-- Takes a message from a device; a message that fails is only noted. -/
def post (n : Network) (p : Posting) : Network :=
  let n := { n with posted := n.posted ++ [p] }
  match p.failure, p.message with
  | some _, _ => n
  | none, .direct user devices m => n.sendDirect p.sender user devices m
  | none, .room roomId m => (n.sendRoom p.sender.user roomId m).2

/-- Takes messages one after another. -/
def postAll (n : Network) (l : List Posting) : Network := l.foldl post n

/-- Takes over the work of a device. -/
def absorb (n : Network) (w : Work) : Network :=
  { n with services := n.services.set w.device w.service, pool := w.pool }.postAll w.postings

/-- The last step of a kind that a device handed to the network, whether it failed or not. -/
def lastStep? (n : Network) (device : Nat) (kind : StepKind) : Option Step :=
  n.posted.reverse.findSome? fun p =>
    if p.device = device then p.message.step?.filter fun s => s.kind == kind else none

/-! ## Actions and background work -/

/-- What a device can act on. -/
def work? (n : Network) (device : Nat) : Option Work :=
  n.services[device]?.map fun s => .begin device s n.pool

/-- Has one device act. -/
def act {α : Type} (n : Network) (device : Nat) (f : Scene → Work → Work × α) :
    Option (Network × α) :=
  (n.work? device).map fun w =>
    let (w, a) := f n.scene w
    (n.absorb w, a)

/-- Acts on the pool of all verifications. -/
def onPool {α : Type} (n : Network) (f : Pool → Pool × List Posting × α) : Network × α :=
  let (pool, postings, a) := f n.pool
  ({ n with pool }.postAll postings, a)

/-- Has the first device act that has something to do. -/
def actFirst? (n : Network) (f : Scene → Work → Option Work) : Option Network :=
  (n.services.zipIdx.findSome? fun (s, i) => f n.scene (.begin i s n.pool)).map n.absorb

/-- Lets a watchdog do what it has to. -/
def fireWatchdog? (n : Network) : Option Network :=
  (n.pool.fireWatchdog? n.scene).map fun (pool, postings) => { n with pool }.postAll postings

/-- Does one piece of background work; timers go first. -/
def step? (n : Network) : Option Network := n.fireWatchdog? <|> n.actFirst? Work.step?

/-- The allowance for the background work that comes of what waits now: a thousand pieces for every
pair of a task and an item, as each item wakes every task at most once and is answered by few
messages. -/
def workload (n : Network) : Nat :=
  let tasks := n.services.foldl (fun k s => k + s.tasks) n.pool.watchdogs.length
  let entries := (n.timelines.rooms.values.flatMap id).length
  let backlog := n.services.foldl (fun k s => k + s.backlog) 0
  1000 * (1 + tasks) * (1 + tasks + entries + backlog)

/-- Does at most `fuel` pieces of background work. -/
def run : (fuel : Nat) → Network → Network
  | 0, n => n
  | fuel + 1, n =>
    match n.step? with
    | some n => run fuel n
    | none => n

/-- Lets all devices work until each of them waits. -/
def settle (n : Network) : Network := run n.workload n

/-- Lets time pass. -/
def advance (n : Network) (milliseconds : Nat) : Network :=
  { n with clock := n.clock + UInt64.ofNat milliseconds, timer := n.timer + milliseconds }

/-- Sends a request of a device into a room and begins its verification. -/
def requestUser (n : Network) (device : Nat) (roomId theirUser : String) :
    Option (Network × Response Nat) :=
  (n.work? device).bind fun w =>
    let own := w.service.own
    let content := w.service.requestContent n.scene
    let message := ConversationMessage.request theirUser content
    let n := { n with posted := n.posted ++ [⟨device, own, .room roomId message, w.sendFailure?⟩] }
    match w.sendFailure? with
    | some e => some (n, .refused (.transport e))
    | none =>
      let (sent, n) := n.sendRoom own.user roomId message
      n.act device fun scene w =>
        let (w, id) := w.beginOwn scene content theirUser roomId sent
        (w, .done id)

end Network

end DeviceVerification
