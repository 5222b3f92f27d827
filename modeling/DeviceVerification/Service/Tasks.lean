import DeviceVerification.Service.Requests

/-!
# What happens by itself

Between the actions of its user a service has work: messages and events in the inboxes of its
listeners, readers of rooms, look-ups whose event is decrypted, and verifications that have ended.
`Work.step?` does one piece of it. Whoever runs into an operation that never ends takes nothing any
more. `Pool.fireWatchdog?` does what the timer asks for.
-/

namespace DeviceVerification

/-- The first item that a test accepts, with what it yields and the items around it. -/
def pick? {α β : Type} (f : α → Option β) : List α → Option (List α × β × List α)
  | [] => none
  | a :: rest =>
    match f a with
    | some b => some ([], b, rest)
    | none => (pick? f rest).map fun (before, b, after) => (a :: before, b, after)

/-- Lets the first watchdog that has something to do act, with the messages that come of it. -/
def Pool.fireWatchdog? (scene : Scene) (p : Pool) : Option (Pool × List Posting) :=
  let move (e : Nat × Watchdog) : Option (Nat × Watchdog.Move) :=
    ((p.verification? e.1).bind fun v => e.2.move? v scene.timer).map fun m => (e.1, m)
  (pick? move p.watchdogs).map fun (before, (id, move), after) =>
    let p := { p with watchdogs := before ++ after }
    match move with
    | .finish => (p, [])
    | .rearm watchdog => (p.addWatchdog id watchdog, [])
    | .expire =>
      let (p, postings, _) := p.perform id (.cancel Watchdog.timedOut)
      (p, postings)

namespace Work

/-- Ends all listeners. -/
def stopListeners? (w : Work) : Option Work :=
  let s := w.service
  if s.isStopped && !(s.directInboxes.isEmpty && s.roomInboxes.isEmpty) then
    some (w.update fun s => { s with directInboxes := [], roomInboxes := [] })
  else none

/-- Lets a listener take a direct message. -/
def takeFromDirectInbox? (scene : Scene) (w : Work) : Option Work :=
  (pick? Feed.next? w.service.directInboxes).map fun (before, (m, rest), after) =>
    match w.takeDirect scene m with
    | (w, .waiting) => w.update fun s => { s with directInboxes := before ++ after }
    | (w, _) => w.update fun s => { s with directInboxes := before ++ rest :: after }

/-- Lets a listener take an event of a room. -/
def takeFromRoomInbox? (scene : Scene) (w : Work) : Option Work :=
  (pick? Feed.next? w.service.roomInboxes).map fun (before, (e, rest), after) =>
    (w.takeEvent scene e).update fun s => { s with roomInboxes := before ++ rest :: after }

/-- Lets a reader of a room go on. -/
def follow? (scene : Scene) (w : Work) : Option Work :=
  let move (f : Follower) : Option (Follower × Follower.Move) :=
    ((w.pool.verification? f.verification).bind fun v => f.move? scene.timelines v).map
      fun m => (f, m)
  (pick? move w.service.followers).map fun (before, (f, move), after) =>
    let withFollowers (w : Work) (l : List Follower) : Work :=
      w.update fun s => { s with followers := before ++ l ++ after }
    match move with
    | .finish =>
      let w := withFollowers w []
      if f.isRegistered then w.update (·.unregister f.verification) else w
    | .go next none => withFollowers w [next]
    | .go next (some op) =>
      match w.perform f.verification op with
      | (w, .waiting) => withFollowers w []
      | (w, _) => withFollowers w [next]

/-- Goes on with a look-up whose event is decrypted. -/
def resume? (scene : Scene) (w : Work) : Option Work :=
  let resolved (r : Resumption) : Option (Resumption × Option RoomEvent) :=
    match scene.timelines.resolve r.entry with
    | .waiting => none
    | .lost => some (r, none)
    | .event e => some (r, some e)
  (pick? resolved w.service.resumptions).map fun (before, (r, event), after) =>
    let w := w.update fun s => { s with resumptions := before ++ after }
    match event with
    | none => w
    | some e => (w.resume scene r.roomId r.eventId r.feed e).1

/-- Takes a direct verification that has ended out of the registry. -/
def finishDirect? (w : Work) : Option Work :=
  let ended (id : Nat) : Option Nat := if w.pool.isRunning id then none else some id
  (pick? ended w.service.finishing).map fun (before, id, after) =>
    (w.update fun s => { s with finishing := before ++ after }).update (·.unregister id)

/-- Does one piece of work that is not up to a timer. -/
def step? (scene : Scene) (w : Work) : Option Work :=
  w.stopListeners? <|> w.takeFromDirectInbox? scene <|> w.takeFromRoomInbox? scene <|>
    w.follow? scene <|> w.resume? scene <|> w.finishDirect?

end Work

namespace Service

/-- The number of items that wait for the tasks of a service. -/
def backlog (s : Service) : Nat :=
  (s.directInboxes.flatMap (·.items)).length + (s.roomInboxes.flatMap (·.items)).length +
    (s.followers.flatMap (·.feed.items)).length + (s.resumptions.flatMap (·.feed.items)).length

/-- The number of tasks of a service. -/
def tasks (s : Service) : Nat :=
  s.directInboxes.length + s.roomInboxes.length + s.followers.length + s.resumptions.length +
    s.finishing.length

end Service

end DeviceVerification
