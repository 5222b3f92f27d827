import DeviceVerification.Proofs.Network.Timeline
import DeviceVerification.Proofs.Verification.Frame
import DeviceVerification.Service.Tasks

/-!
# Readings of a room

A `Reading` puts a follower together with its verification, the histories of the rooms and what is
on the way to it. Events are appended and only later reach those who listen; the user acts, and what
the verification sends becomes an event of the room; the follower subscribes, reads the history once
and takes what comes in. `Reading.Permits` lets all of that happen in any order. One step of the
follower is `Follower.Moves`, and `follow?_reads` says that a service has its followers do exactly
these steps.
-/

namespace DeviceVerification

open Verification (Operation)

/-! ## One move of a follower -/

namespace Follower

variable {f f' : Follower} {t : Timelines} {v : Verification} {source : EventSource} {e : RoomEvent}

/-- A follower takes an event of its room that it did not take before. -/
def Takes (f : Follower) (e : RoomEvent) : Prop := e.roomId = f.roomId ∧ e.eventId ∉ f.seen

instance (f : Follower) (e : RoomEvent) : Decidable (f.Takes e) :=
  inferInstanceAs (Decidable (_ ∧ _))

/-- The event that a follower comes to next, if its verification still runs. -/
def upcoming? (f : Follower) (t : Timelines) (v : Verification) :
    Option (EventSource × RoomEvent) :=
  if v.isTerminal then none
  else
    match f.phase with
    | .replaying (entry :: _) =>
      match t.resolve entry with
      | .event e => some (.history, e)
      | _ => none
    | .following => f.feed.items.head?.map fun e => (.live, e)
    | _ => none

/-- The event that a follower hands to its verification next. -/
def handing? (f : Follower) (t : Timelines) (v : Verification) : Option (EventSource × RoomEvent) :=
  (f.upcoming? t v).filter fun i => f.Takes i.2

/-- A follower comes to an event, and has it behind itself. -/
inductive Comes (f : Follower) (t : Timelines) : EventSource → RoomEvent → Follower → Prop where
  | history {entry : Entry} {rest : List Entry} {e : RoomEvent}
      (phase : f.phase = .replaying (entry :: rest)) (resolved : t.resolve entry = .event e) :
      Comes f t .history e { f with phase := .replaying rest }
  | live {e : RoomEvent} {items : List RoomEvent} (phase : f.phase = .following)
      (waiting : f.feed.items = e :: items) : Comes f t .live e { f with feed := ⟨items, 0⟩ }

/-- Everything that a follower can do next, and the event that it hands over with that. -/
inductive Moves (f : Follower) (t : Timelines) (v : Verification) :
    Move → Option (EventSource × RoomEvent) → Prop where
  /-- The history is read. -/
  | opens {entries : List Entry} (phase : f.phase = .opening)
      (read : t.readFrom f.roomId v.transaction.id = .ok entries) :
      Moves f t v (.go { f with phase := .replaying entries } none) none
  /-- There is no history. -/
  | misses {failure : TransportError} (phase : f.phase = .opening)
      (read : t.readFrom f.roomId v.transaction.id = .error failure) :
      Moves f t v (.go { f with phase := .following } (some .finishReplay)) none
  | leaves {entries : List Entry} (phase : f.phase = .replaying entries)
      (ended : entries = [] ∨ v.isTerminal = true) :
      Moves f t v (.go { f with phase := .following } (some .finishReplay)) none
  /-- An entry of the history was never decrypted. -/
  | drops {entry : Entry} {rest : List Entry} (phase : f.phase = .replaying (entry :: rest))
      (running : v.isTerminal = false) (lost : t.resolve entry = .lost) :
      Moves f t v (.go { f with phase := .replaying rest } none) none
  | takes {source : EventSource} {e : RoomEvent} {f' : Follower} (comes : f.Comes t source e f')
      (running : v.isTerminal = false) (takes : f.Takes e) :
      Moves f t v (.go { f' with seen := e.eventId :: f.seen } (operationOf f.reader v source e))
        (some (source, e))
  /-- An event is of another room, or was taken before. -/
  | skips {source : EventSource} {e : RoomEvent} {f' : Follower} (comes : f.Comes t source e f')
      (running : v.isTerminal = false) (known : ¬f.Takes e) : Moves f t v (.go f' none) none
  | finishes (phase : f.phase = .following) (terminal : v.isTerminal = true) :
      Moves f t v .finish none

namespace Comes

theorem upcoming?_eq (h : f.Comes t source e f') (running : v.isTerminal = false) :
    f.upcoming? t v = some (source, e) := by
  cases h with
  | history phase resolved => simp [upcoming?, running, phase, resolved]
  | live phase waiting => simp [upcoming?, running, phase, waiting]

/-- Coming to an event changes neither the room nor what was taken, and follows the reading. -/
theorem same (h : f.Comes t source e f') :
    f'.roomId = f.roomId ∧ f'.seen = f.seen ∧ f.phase ≠ .opening := by
  cases h with
  | history phase | live phase => exact ⟨rfl, rfl, by simp [phase]⟩

/-- What a follower makes of an event. -/
theorem take_eq (h : f.Comes t source e f') :
    f'.take v source e =
      if f.Takes e then
        .go { f' with seen := e.eventId :: f.seen } (operationOf f.reader v source e)
      else .go f' none := by
  cases h <;> rfl

/-- A follower that comes to an event takes it or goes past it. -/
theorem moves_take (h : f.Comes t source e f') (running : v.isTerminal = false) :
    Moves f t v (f'.take v source e) (f.handing? t v) := by
  rw [handing?, h.upcoming?_eq running, Option.filter_some, h.take_eq]
  by_cases taken : f.Takes e
  · rw [if_pos taken, if_pos (decide_eq_true taken)]
    exact .takes h running taken
  · rw [if_neg taken, if_neg (by simpa using taken)]
    exact .skips h running taken

end Comes

theorem handing?_of_upcoming? (h : f.upcoming? t v = none) : f.handing? t v = none := by
  simp [handing?, h]

/-- What a follower does next is one of its moves. -/
theorem moves_of_move? {move : Move} (h : f.move? t v = some move) :
    Moves f t v move (f.handing? t v) := by
  unfold move? at h
  split at h
  · rename_i phase
    have nothing : f.handing? t v = none := handing?_of_upcoming? (by simp [upcoming?, phase])
    rw [nothing]
    split at h
    · rename_i entries read
      exact Option.some.inj h ▸ .opens phase read
    · rename_i failure read
      exact Option.some.inj h ▸ .misses phase read
  · rename_i phase
    have nothing : f.handing? t v = none := handing?_of_upcoming? (by simp [upcoming?, phase])
    rw [nothing]
    exact Option.some.inj h ▸ .leaves phase (.inl rfl)
  · rename_i entry rest phase
    split at h
    · rename_i terminal
      have nothing : f.handing? t v = none :=
        handing?_of_upcoming? (by simp [upcoming?, terminal])
      rw [nothing]
      exact Option.some.inj h ▸ .leaves phase (.inr terminal)
    · rename_i running
      rw [Bool.not_eq_true] at running
      simp only at h
      split at h
      · rename_i e resolved
        exact Option.some.inj h ▸ (Comes.history phase resolved).moves_take running
      · rename_i resolved
        have nothing : f.handing? t v = none :=
          handing?_of_upcoming? (by simp [upcoming?, running, phase, resolved])
        rw [nothing]
        exact Option.some.inj h ▸ .drops phase running resolved
      · cases h
  · rename_i phase
    split at h
    · rename_i terminal
      have nothing : f.handing? t v = none :=
        handing?_of_upcoming? (by simp [upcoming?, terminal])
      rw [nothing]
      exact Option.some.inj h ▸ .finishes phase terminal
    · rename_i running
      rw [Bool.not_eq_true] at running
      obtain ⟨⟨e, feed⟩, next, same⟩ := Option.map_eq_some_iff.1 h
      unfold Feed.next? at next
      split at next
      · cases next
      · rename_i items waiting
        cases next
        exact same ▸ (Comes.live phase waiting).moves_take running

/-- A move leads on for the same reader in the same room, and the history is read once. -/
theorem Moves.same {next : Follower} {op? : Option Operation}
    {item? : Option (EventSource × RoomEvent)} (h : Moves f t v (.go next op?) item?) :
    next.reader = f.reader ∧ next.roomId = f.roomId ∧ next.phase ≠ .opening := by
  cases h with
  | opens | misses | leaves | drops => exact ⟨rfl, rfl, by simp⟩
  | takes comes | skips comes =>
    cases comes with
    | history | live phase => exact ⟨rfl, rfl, by simp [*]⟩

/-- Why a follower waits: for the decryption of an entry, or for the next event. -/
inductive Waits (f : Follower) (t : Timelines) : Prop where
  | decryption {entry : Entry} {rest : List Entry} (phase : f.phase = .replaying (entry :: rest))
      (waiting : t.resolve entry = .waiting)
  | event (phase : f.phase = .following) (nothing : f.feed.items = [])

/-- A follower that does nothing waits, and its verification runs. -/
theorem waits_of_move?_eq_none (h : f.move? t v = none) : f.Waits t ∧ v.isTerminal = false := by
  unfold move? at h
  split at h
  · split at h <;> cases h
  · cases h
  · rename_i entry rest phase
    split at h
    · cases h
    · rename_i running
      rw [Bool.not_eq_true] at running
      cases resolved : t.resolve entry with
      | event | lost => simp [resolved] at h
      | waiting => exact ⟨.decryption phase resolved, running⟩
  · rename_i phase
    split at h
    · cases h
    · rename_i running
      rw [Bool.not_eq_true] at running
      cases waiting : f.feed.items with
      | nil => exact ⟨.event phase waiting, running⟩
      | cons e items => simp [Feed.next?, waiting] at h

end Follower

/-! ## Readings -/

/-- An event that a follower handed to its verification. -/
structure Handing where
  source : EventSource
  event : RoomEvent
  /-- The verification that the event found. -/
  before : Verification
  answers : Answers

/-- The event of a handing, and where it is from. -/
def Handing.item (h : Handing) : EventSource × RoomEvent := (h.source, h.event)

/-- What the event of a handing does to the verification of a reader. -/
def Handing.operation? (h : Handing) (reader : Identity) : Option Operation :=
  operationOf reader h.before h.source h.event

namespace Reading

/-- Whether a follower listens. -/
inductive Stage where
  /-- The follower is not subscribed yet. -/
  | away
  | attending
  /-- The follower has ended, or waits behind an answer that never comes. -/
  | gone
  deriving DecidableEq

end Reading

/-- A follower with everything around it. -/
structure Reading where
  verification : Verification
  keys : KeySource
  follower : Follower
  stage : Reading.Stage
  timelines : Timelines
  /-- The events that were appended and did not reach those who listen yet. -/
  underWay : List RoomEvent
  /-- The steps that the verification sent into rooms and that are no events yet. -/
  outbox : List (String × Step)
  /-- The events that the steps of the verification became. -/
  posted : List RoomEvent
  /-- The history that the follower read. -/
  history : List Entry
  /-- The events that reached the follower. -/
  heard : List RoomEvent
  /-- The events that the follower handed to the verification. -/
  handed : List Handing

/-- Only a verification that waits behind the trust store lets a follower wait. -/
theorem Verification.held_of_waiting {a : Answers} {op : Operation} {v : Verification}
    {keys : KeySource} (foreign : op.isLocal = false)
    (waiting : (v.perform a op keys).reply = .waiting) :
    (v.perform a op keys).verification.held := by
  unfold Verification.perform at waiting ⊢
  split
  · assumption
  · rename_i free
    rw [if_neg free] at waiting
    cases op with
    | ready | start | act | cancel | abort => cases foreign
    | yieldToOtherDevice | receive | replay | finishReplay =>
      simp only [Progress.silent] at waiting ⊢
      split at waiting
      · assumption
      · cases waiting

/-- Something that happens around a follower. -/
inductive Happening where
  | subscribe
  /-- Somebody's event is appended to its room. -/
  | append (e : RoomEvent)
  /-- An event that is being decrypted is appended to a room. -/
  | pend (roomId eventId : String)
  /-- A decryption comes further. -/
  | decrypt (place : Nat) (d : Decryption)
  /-- An event that was appended reaches those who listen. -/
  | broadcast (e : RoomEvent)
  | act (op : Operation) (a : Answers)
  /-- The next step that the verification sent becomes an event of its room. -/
  | post (eventId : String) (timestamp : UInt64)
  /-- The follower goes on. -/
  | read (a : Answers)

namespace Reading

/-- The steps that effects bring into rooms. -/
def deliveries (effects : List Verification.Effect) : List (String × Step) :=
  effects.filterMap fun
    | .send (.room roomId) step none => some (roomId, step)
    | _ => none

/-- A follower that has not subscribed yet, before anything is in a room. -/
def begin (v : Verification) (keys : KeySource) (f : Follower) : Reading where
  verification := v
  keys := keys
  follower := { f with phase := .opening, seen := [], feed := .empty }
  stage := .away
  timelines := .empty
  underWay := []
  outbox := []
  posted := []
  history := []
  heard := []
  handed := []

/-- A follower that listens. -/
def attend (v : Verification) (keys : KeySource) (f : Follower) (t : Timelines) : Reading :=
  { begin v keys f with follower := f, stage := .attending, timelines := t }

/-- The reading after an operation on its verification. -/
def perform (s : Reading) (a : Answers) (op : Operation) : Reading :=
  let o := s.verification.perform a op s.keys
  { s with
    verification := o.verification
    keys := o.source
    outbox := s.outbox ++ deliveries o.effects
    stage := if op.isLocal = false ∧ o.reply = .waiting then .gone else s.stage }

/-- The reading after an operation, if there is one. -/
def performs (s : Reading) (a : Answers) : Option Operation → Reading
  | none => s
  | some op => s.perform a op

@[simp] theorem performs_some (s : Reading) (a : Answers) (op : Operation) :
    s.performs a (some op) = s.perform a op := rfl

/-- The history that a follower has read after its next move. -/
def remembered (s : Reading) : List Entry :=
  match s.follower.phase with
  | .opening =>
    (s.timelines.readFrom s.follower.roomId s.verification.transaction.id).toOption.getD []
  | _ => s.history

/-- The history is read once. -/
theorem remembered_eq {s : Reading} (read : s.follower.phase ≠ .opening) :
    s.remembered = s.history := by
  unfold remembered
  split
  · contradiction
  · rfl

/-- The handing of the next move, if it is one. -/
def handing? (s : Reading) (a : Answers) : Option Handing :=
  (s.follower.handing? s.timelines s.verification).map fun i => ⟨i.1, i.2, s.verification, a⟩

/-- The follower is further on, and may have handed something over. -/
def advance (s : Reading) (a : Answers) (next : Follower) : Reading :=
  { s with
    follower := next
    history := s.remembered
    handed := s.handed ++ (s.handing? a).toList }

/-- The follower makes its next move, if there is one. -/
def read (s : Reading) (a : Answers) : Reading :=
  match s.follower.move? s.timelines s.verification with
  | none => s
  | some .finish => { s with stage := .gone }
  | some (.go next op?) => (s.advance a next).performs a op?

section

variable {s : Reading} (a : Answers)

theorem read_wait (h : s.follower.move? s.timelines s.verification = none) : s.read a = s := by
  simp only [read, h]

theorem read_finish (h : s.follower.move? s.timelines s.verification = some .finish) :
    s.read a = { s with stage := .gone } := by
  simp only [read, h]

theorem read_go {next : Follower} {op? : Option Operation}
    (h : s.follower.move? s.timelines s.verification = some (.go next op?)) :
    s.read a = (s.advance a next).performs a op? := by
  simp only [read, h]

/-- A follower whose operation never ends is gone. -/
theorem perform_stage {op : Operation} (foreign : op.isLocal = false) :
    (s.perform a op).stage =
      if (s.verification.perform a op s.keys).reply = .waiting then .gone else s.stage := by
  simp [perform, foreign]

end

section

variable (s : Reading) (a : Answers) (op? : Option Operation)

@[simp] theorem performs_follower : (s.performs a op?).follower = s.follower := by
  cases op? <;> rfl

@[simp] theorem performs_timelines : (s.performs a op?).timelines = s.timelines := by
  cases op? <;> rfl

@[simp] theorem performs_underWay : (s.performs a op?).underWay = s.underWay := by
  cases op? <;> rfl

@[simp] theorem performs_history : (s.performs a op?).history = s.history := by
  cases op? <;> rfl

@[simp] theorem performs_heard : (s.performs a op?).heard = s.heard := by
  cases op? <;> rfl

@[simp] theorem performs_handed : (s.performs a op?).handed = s.handed := by
  cases op? <;> rfl

/-- An operation leaves who verifies whom alone. -/
theorem sameTerms_performs : s.verification.SameTerms (s.performs a op?).verification := by
  cases op? with
  | none => exact .refl _
  | some op => exact Verification.sameTerms_perform a op _ _

/-- Nothing more happens to a verification that is settled. -/
theorem performs_of_isSettled (settled : s.verification.IsSettled) :
    (s.performs a op?).verification = s.verification := by
  cases op? with
  | none => rfl
  | some op =>
    obtain ⟨reply, same⟩ := settled.perform_eq a op s.keys
    exact congrArg Verification.Outcome.verification same

end

/-- The event that a step of a verification becomes. -/
def eventOf (v : Verification) (roomId eventId : String) (timestamp : UInt64) (step : Step) :
    RoomEvent :=
  ⟨roomId, eventId, v.own.user, timestamp, some (.step v.transaction.id step)⟩

/-- An event is in its room, on the way to those who listen. -/
def store (s : Reading) (e : RoomEvent) : Reading :=
  { s with
    timelines := s.timelines.append e.roomId (.event e)
    underWay := s.underWay ++ [e] }

/-- An event that was appended reaches those who listen. -/
def broadcast (s : Reading) (e : RoomEvent) : Reading :=
  let sent := { s with underWay := s.underWay.erase e }
  if s.stage = .attending then
    { sent with
      follower := { s.follower with feed := s.follower.feed.push Feed.messageCapacity e }
      heard := s.heard ++ [e] }
  else sent

/-- The next step that the verification sent is in its room. -/
def post (s : Reading) (eventId : String) (timestamp : UInt64) : Reading :=
  match s.outbox with
  | [] => s
  | (roomId, step) :: rest =>
    let e := eventOf s.verification roomId eventId timestamp step
    { s with outbox := rest, posted := s.posted ++ [e] }.store e

/-- The reading after something happened. -/
def after (s : Reading) : Happening → Reading
  | .subscribe => { s with stage := .attending }
  | .append e => s.store e
  | .pend roomId eventId => { s with timelines := s.timelines.appendPending roomId eventId }
  | .decrypt place d => { s with timelines := s.timelines.decrypt place d }
  | .broadcast e => s.broadcast e
  | .act op a => s.perform a op
  | .post eventId timestamp => s.post eventId timestamp
  | .read a => s.read a

/-- What can happen next. A decryption gives one event at most, no follower lags, and events of ours
get ids of their own. -/
def Allows (s : Reading) : Happening → Prop
  | .subscribe => s.stage = .away
  | .append _ => True
  | .pend _ _ => True
  | .decrypt place d => s.timelines.Advances place d
  | .broadcast e => e ∈ s.underWay ∧
      (s.stage = .attending → s.follower.feed.items.length < Feed.messageCapacity)
  | .act op _ => op.isLocal = true
  | .post eventId _ => ¬s.timelines.Knows eventId
  | .read _ => s.stage = .attending

instance (s : Reading) (x : Happening) : Decidable (s.Allows x) := by
  cases x <;> unfold Allows <;> infer_instance

/-- Some happenings can follow on each other. -/
def Permits (s : Reading) : List Happening → Prop
  | [] => True
  | x :: rest => s.Allows x ∧ (s.after x).Permits rest

instance decidablePermits (s : Reading) : (l : List Happening) → Decidable (s.Permits l)
  | [] => inferInstanceAs (Decidable True)
  | x :: rest =>
    have := decidablePermits (s.after x) rest
    inferInstanceAs (Decidable (_ ∧ _))

/-- The reading after some happenings. -/
def run (s : Reading) (l : List Happening) : Reading := l.foldl after s

/-- A reading comes of another one by happenings that can follow on each other. -/
structure Leads (s₀ : Reading) (l : List Happening) (s : Reading) : Prop where
  permitted : s₀.Permits l
  result : s₀.run l = s

namespace Leads

variable {s₀ s : Reading} {l : List Happening} {x : Happening}

theorem nil (s : Reading) : s.Leads [] s := ⟨trivial, rfl⟩

theorem cons (allowed : s₀.Allows x) (h : (s₀.after x).Leads l s) : s₀.Leads (x :: l) s :=
  ⟨⟨allowed, h.permitted⟩, h.result⟩

/-- What everything that happens keeps holds at the end. -/
theorem induction {P : Reading → Prop} (h : s₀.Leads l s) (start : P s₀)
    (step : ∀ s, ∀ x ∈ l, P s → s.Allows x → P (s.after x)) : P s := by
  obtain ⟨permitted, rfl⟩ := h
  induction l generalizing s₀ with
  | nil => exact start
  | cons x rest ih =>
    refine ih (step s₀ x List.mem_cons_self start permitted.1) ?_ permitted.2
    exact fun s x mem => step s x (List.mem_cons_of_mem _ mem)

end Leads

/-! ### What concerns the verification -/

/-- Nothing happened to the verification or to its follower but that something is on its way. -/
structure Beside (s s' : Reading) : Prop where
  verification : s'.verification = s.verification
  keys : s'.keys = s.keys
  reader : s'.follower.reader = s.follower.reader
  room : s'.follower.roomId = s.follower.roomId
  handed : s'.handed = s.handed

/-- What happens is no concern of the verification, an action on it, or a move of its follower. -/
inductive Concerns (s : Reading) : Happening → Reading → Prop where
  | beside {x : Happening} {s' : Reading} (same : s.Beside s') : Concerns s x s'
  | acts {op : Operation} {a : Answers} : Concerns s (.act op a) (s.perform a op)
  | moves {a : Answers} {next : Follower} {op? : Option Operation}
      {item? : Option (EventSource × RoomEvent)}
      (given : s.follower.handing? s.timelines s.verification = item?)
      (moves : s.follower.Moves s.timelines s.verification (.go next op?) item?) :
      Concerns s (.read a) ((s.advance a next).performs a op?)

theorem concerns_after (s : Reading) (x : Happening) : s.Concerns x (s.after x) := by
  cases x with
  | subscribe | append | pend | decrypt => exact .beside ⟨rfl, rfl, rfl, rfl, rfl⟩
  | broadcast e =>
    show s.Concerns _ (s.broadcast e)
    unfold broadcast
    split <;> exact .beside ⟨rfl, rfl, rfl, rfl, rfl⟩
  | act op a => exact .acts
  | post eventId timestamp =>
    show s.Concerns _ (s.post eventId timestamp)
    unfold post
    split <;> exact .beside ⟨rfl, rfl, rfl, rfl, rfl⟩
  | read a =>
    show s.Concerns _ (s.read a)
    cases move : s.follower.move? s.timelines s.verification with
    | none =>
      rw [read_wait a move]
      exact .beside ⟨rfl, rfl, rfl, rfl, rfl⟩
    | some m =>
      cases m with
      | finish =>
        rw [read_finish a move]
        exact .beside ⟨rfl, rfl, rfl, rfl, rfl⟩
      | go next op? =>
        rw [read_go a move]
        exact .moves rfl (Follower.moves_of_move? move)

/-- What every operation keeps holds of the verification, whatever happens. -/
theorem Leads.verification_induction {s₀ s : Reading} {l : List Happening}
    {P : Verification → Prop} (h : s₀.Leads l s) (start : P s₀.verification)
    (step : ∀ v op a keys, P v → P (Verification.perform a op v keys).verification) :
    P s.verification := by
  refine h.induction (P := fun s => P s.verification) start ?_
  intro s x _ before _
  have concern := s.concerns_after x
  generalize s.after x = s' at concern
  cases concern with
  | beside same =>
    rw [same.verification]
    exact before
  | @acts op a => exact step s.verification op a s.keys before
  | @moves a next op? =>
    cases op? with
    | none => exact before
    | some op => exact step s.verification op a s.keys before

/-- What does not change around a follower: its reader, its room, and who verifies whom. -/
structure Steady (s s' : Reading) : Prop where
  reader : s'.follower.reader = s.follower.reader
  room : s'.follower.roomId = s.follower.roomId
  terms : s.verification.SameTerms s'.verification

namespace Steady

variable {s s' s'' : Reading}

theorem refl (s : Reading) : s.Steady s := ⟨rfl, rfl, .refl _⟩

theorem trans (h : s.Steady s') (h' : s'.Steady s'') : s.Steady s'' :=
  ⟨h'.reader.trans h.reader, h'.room.trans h.room, h.terms.trans h'.terms⟩

theorem after (s : Reading) (x : Happening) : s.Steady (s.after x) := by
  have concern := s.concerns_after x
  generalize s.after x = s' at concern
  cases concern with
  | beside same =>
    refine ⟨same.reader, same.room, ?_⟩
    rw [same.verification]
    exact .refl _
  | @acts op a => exact ⟨rfl, rfl, sameTerms_performs s a (some op)⟩
  | @moves a next op? _ given moves =>
    obtain ⟨reader, room, -⟩ := moves.same
    refine ⟨?_, ?_, sameTerms_performs (s.advance a next) a op?⟩
    · rw [performs_follower]
      exact reader
    · rw [performs_follower]
      exact room

end Steady

/-- Nothing that happens changes who reads and verifies what. -/
theorem Leads.steady {s₀ s : Reading} {l : List Happening} (h : s₀.Leads l s) : s₀.Steady s :=
  h.induction (.refl s₀) fun s x _ steady _ => steady.trans (.after s x)

/-- What holds of an event whenever one is handed over holds of everything that was. -/
theorem Leads.forall_handed {s₀ s : Reading} {l : List Happening} {P : Handing → Prop}
    (h : s₀.Leads l s) (start : s₀.handed = [])
    (step : ∀ s a, s₀.Steady s → .read a ∈ l → ∀ h ∈ s.handing? a, P h) :
    ∀ h ∈ s.handed, P h := by
  have both : s₀.Steady s ∧ ∀ h ∈ s.handed, P h := by
    refine h.induction (P := fun s => s₀.Steady s ∧ ∀ h ∈ s.handed, P h) ⟨.refl s₀, ?_⟩ ?_
    · intro h mem
      rw [start] at mem
      cases mem
    · rintro s x mem ⟨steady, before⟩ -
      refine ⟨steady.trans (.after s x), ?_⟩
      have concern := s.concerns_after x
      generalize s.after x = s' at concern
      cases concern with
      | beside same =>
        rw [same.handed]
        exact before
      | acts => exact before
      | @moves a next op? item? given moves =>
        rw [performs_handed]
        intro h handed
        rcases List.mem_append.1 handed with old | new
        · exact before h old
        · exact step s a steady mem h (Option.mem_toList.1 new)
  exact both.2

end Reading

/-! ## Followers of a service -/

/-- What was picked was in the list, between what is around it. -/
theorem eq_of_pick? {α β : Type} {f : α → Option β} {l before after : List α} {b : β}
    (h : pick? f l = some (before, b, after)) :
    ∃ a, l = before ++ a :: after ∧ f a = some b := by
  induction l generalizing before with
  | nil => cases h
  | cons a rest ih =>
    unfold pick? at h
    split at h
    · rename_i b' picked
      obtain ⟨rfl, rfl, rfl⟩ : [] = before ∧ b' = b ∧ rest = after := by simpa using h
      exact ⟨a, rfl, picked⟩
    · obtain ⟨⟨before', b', after'⟩, picked, same⟩ := Option.map_eq_some_iff.1 h
      obtain ⟨rfl, rfl, rfl⟩ : a :: before' = before ∧ b' = b ∧ after' = after := by
        simpa using same
      obtain ⟨a', rfl, found⟩ := ih picked
      exact ⟨a', rfl, found⟩

/-- The operations of a follower are no actions of the user. -/
theorem Follower.Moves.isLocal_eq_false {f next : Follower} {t : Timelines} {v : Verification}
    {op : Operation} {item? : Option (EventSource × RoomEvent)}
    (h : f.Moves t v (.go next (some op)) item?) : op.isLocal = false := by
  generalize same : Follower.Move.go next (some op) = move at h
  cases h with
  | opens | drops | skips | finishes => cases same
  | misses | leaves =>
    obtain ⟨-, rfl⟩ : next = _ ∧ op = .finishReplay := by simpa using same
    rfl
  | takes =>
    obtain ⟨-, named⟩ : next = _ ∧ some op = _ := by simpa using same
    unfold operationOf at named
    grind [Operation.isLocal]

/-- What a service performs on a verification is what its device answers to it. -/
theorem Work.perform_eq {w : Work} {id device : Nat} {v : Verification} {own : Surroundings}
    (found : w.pool.verifications[id]? = some (device, v))
    (offered : w.pool.surroundings[device]? = some own) (op : Operation) :
    (w.perform id op).1.service = w.service ∧
      (w.perform id op).1.pool.verifications[id]? =
        some (device, (v.perform (own.answers v.own) op own.source).verification) ∧
      (w.perform id op).2 = (v.perform (own.answers v.own) op own.source).reply := by
  have inside : id < w.pool.verifications.length := (List.getElem?_eq_some_iff.1 found).1
  simp only [Work.perform, Work.onPool, Pool.perform, Pool.performAlone?, found, offered,
    Option.map_some]
  exact ⟨trivial, List.getElem?_set_self inside, trivial⟩

/-- A piece of work of a service on its followers is a step of the reading of one of them. -/
theorem Work.follow?_reads {scene : Scene} {w w' : Work} (h : w.follow? scene = some w') :
    ∃ before f after device v, w.service.followers = before ++ f :: after ∧
      w.pool.verifications[f.verification]? = some (device, v) ∧
      ∀ own, w.pool.surroundings[device]? = some own →
        ∀ s, s = (Reading.attend v own.source f scene.timelines).read (own.answers v.own) →
          w'.pool.verifications[f.verification]? = some (device, s.verification) ∧
          w'.service.followers =
            before ++ (if s.stage = .attending then [s.follower] else []) ++ after := by
  unfold Work.follow? at h
  obtain ⟨⟨before, ⟨f, move⟩, after⟩, picked, done⟩ := Option.map_eq_some_iff.1 h
  obtain ⟨f', around, found⟩ := eq_of_pick? picked
  obtain ⟨move', bound, same⟩ := Option.map_eq_some_iff.1 found
  obtain ⟨rfl, rfl⟩ : f' = f ∧ move' = move := by simpa using same
  obtain ⟨v, known, moved⟩ := Option.bind_eq_some_iff.1 bound
  obtain ⟨⟨device, v'⟩, stored, rfl⟩ := Option.map_eq_some_iff.1 known
  refine ⟨before, f', after, device, v', around, stored, ?_⟩
  rintro own offered s rfl
  have reads : (Reading.attend v' own.source f' scene.timelines).follower.move?
      (Reading.attend v' own.source f' scene.timelines).timelines
      (Reading.attend v' own.source f' scene.timelines).verification = some move' := moved
  subst done
  cases move' with
  | finish =>
    rw [Reading.read_finish _ reads]
    dsimp only
    by_cases registered : f'.isRegistered
    · rw [if_pos registered]
      exact ⟨stored, rfl⟩
    · rw [if_neg registered]
      exact ⟨stored, rfl⟩
  | go next op? =>
    rw [Reading.read_go _ reads]
    cases op? with
    | none => exact ⟨stored, rfl⟩
    | some op =>
      have foreign : op.isLocal = false := (Follower.moves_of_move? moved).isLocal_eq_false
      obtain ⟨service, verification, reply⟩ := Work.perform_eq stored offered op
      dsimp only
      generalize w.perform f'.verification op = performed at service verification reply ⊢
      obtain ⟨w₁, answer⟩ := performed
      dsimp only at service verification reply
      refine ⟨?_, ?_⟩
      · cases answer <;> exact verification
      · rw [Reading.performs_some, Reading.perform_stage _ foreign]
        show _ = before ++ (if (if (Verification.perform (own.answers v'.own) op v'
          own.source).reply = .waiting then Reading.Stage.gone else .attending) = .attending
            then [next] else []) ++ after
        rw [← reply]
        cases answer <;> simp [Work.update]

end DeviceVerification
