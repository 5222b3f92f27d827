import DeviceVerification.Proofs.Service.Reading

/-!
# What a follower hands over

A follower has two sources that overlap in any way: the history that it reads once, and the events
that reach it since it subscribed. `Merged` says where it stands between them, and is kept by
everything that happens. What it hands to its verification are the first occurrences, by event id,
of the history followed by what it heard, and together these two miss nothing of the room
(`hands_first_occurrences`).
-/

namespace DeviceVerification

open Verification (Operation)

/-! ## First occurrences -/

section

variable {α : Type} (key : α → String) {l m : List α} {x : α} {k : String}

/-- The first occurrences of all keys, in their order. -/
def firsts : List α → List α
  | [] => []
  | x :: rest => x :: (firsts rest).filter fun y => key y ≠ key x

/-- Every key occurs first somewhere. -/
theorem mem_map_firsts : k ∈ (firsts key l).map key ↔ k ∈ l.map key := by
  induction l with
  | nil => rfl
  | cons x rest ih =>
    by_cases same : k = key x
    · simp [firsts, same]
    · have there : k ∈ (firsts key (x :: rest)).map key ↔ k ∈ (firsts key rest).map key := by
        simp only [firsts, List.map_cons, List.mem_cons, same, false_or, List.mem_map,
          List.mem_filter, decide_eq_true_eq]
        constructor
        · rintro ⟨y, ⟨mem, -⟩, rfl⟩
          exact ⟨y, mem, rfl⟩
        · rintro ⟨y, mem, rfl⟩
          exact ⟨y, ⟨mem, same⟩, rfl⟩
      rw [there, ih, List.map_cons, List.mem_cons]
      simp [same]

/-- First occurrences are occurrences. -/
theorem firsts_subset : firsts key l ⊆ l := by
  induction l with
  | nil => exact List.Subset.refl _
  | cons x rest ih =>
    exact List.cons_subset_cons x (List.Subset.trans List.filter_sublist.subset ih)

/-- One more element is a first occurrence unless its key is there. -/
theorem firsts_concat (l : List α) (x : α) :
    firsts key (l ++ [x]) = firsts key l ++ if key x ∈ l.map key then [] else [x] := by
  induction l with
  | nil => rfl
  | cons a rest ih =>
    simp only [List.cons_append, firsts, ih, List.filter_append, List.map_cons, List.mem_cons]
    by_cases same : key x = key a
    · have kept :
          (if key x ∈ rest.map key then [] else [x]).filter (fun y => key y ≠ key a) = [] := by
        split <;> simp [same]
      rw [kept, if_pos (.inl same)]
    · by_cases there : key x ∈ rest.map key
      · rw [if_pos there, if_pos (.inr there), List.filter_nil]
      · rw [if_neg there, if_neg (by simp [same, there])]
        simp [same]

/-- What occurs first stays so, whatever comes after it. -/
theorem firsts_prefix (l m : List α) : firsts key l <+: firsts key (l ++ m) := by
  induction l with
  | nil => exact List.nil_prefix
  | cons x rest ih => exact (List.cons_prefix_cons).2 ⟨rfl, ih.filter _⟩

/-- Where all keys are different, everything is a first occurrence. -/
theorem firsts_eq_self (distinct : (l.map key).Nodup) : firsts key l = l := by
  induction l with
  | nil => rfl
  | cons x rest ih =>
    obtain ⟨new, distinct⟩ := List.nodup_cons.1 distinct
    rw [firsts, ih distinct, List.filter_eq_self.2]
    intro y mem
    have other : key y ≠ key x := fun same => new (same ▸ List.mem_map_of_mem mem)
    simpa using other

end

/-! ## What is performed -/

/-- Whether an operation comes of an event: it takes a step of either side, or stands down for
another device. -/
def Verification.Operation.isOfEvent : Operation → Bool
  | .receive _ _ => true
  | .replay _ => true
  | .yieldToOtherDevice => true
  | _ => false

theorem Verification.Operation.isOfEvent_of_isLocal {op : Operation} (h : op.isLocal = true) :
    op.isOfEvent = false := by
  cases op <;> simp [isLocal, isOfEvent] at h ⊢

/-- What a follower performs for an event comes of an event. -/
theorem isOfEvent_of_operationOf {reader : Identity} {v : Verification} {source : EventSource}
    {e : RoomEvent} {op : Operation} (h : operationOf reader v source e = some op) :
    op.isOfEvent = true := by
  unfold operationOf at h
  grind [Operation.isOfEvent]

/-- The operations of a run that came of events, each with the verification that it found. -/
def Verification.Run.ofEvents (r : Verification.Run) : List (Verification × Operation × Answers) :=
  (r.log.filter (·.op.isOfEvent)).map fun e => (e.before, e.op, e.answers)

theorem Verification.Run.ofEvents_step (r : Verification.Run) (op : Operation) (a : Answers) :
    (r.step (op, a)).ofEvents =
      r.ofEvents ++ if op.isOfEvent then [(r.verification, op, a)] else [] := by
  show ((r.log ++ [_]).filter _).map _ = _
  rw [List.filter_append, List.map_append, List.filter_singleton]
  cases op.isOfEvent <;> rfl

/-- What is performed for the event of a handing, on the verification that it found. -/
def Handing.performed? (h : Handing) (reader : Identity) :
    Option (Verification × Operation × Answers) :=
  (h.operation? reader).map (h.before, ·, h.answers)

/-- More moves than a follower can make from what there is, if the history has some length. -/
def Follower.workload (f : Follower) (history : Nat) : Nat :=
  match f.phase with
  | .opening => history + f.feed.items.length + 3
  | .replaying entries => entries.length + f.feed.items.length + 2
  | .following => f.feed.items.length + 1

namespace Reading

/-! ## Where a follower stands -/

/-- The events of a room that some entries and some events amount to, each with its source. -/
def offers (t : Timelines) (roomId : String) (entries : List Entry) (events : List RoomEvent) :
    List (EventSource × RoomEvent) :=
  (((entries.filterMap t.event?).filter fun e => e.roomId = roomId).map fun e => (.history, e)) ++
    ((events.filter fun e => e.roomId = roomId).map fun e => (.live, e))

/-- The events that a follower owes to its verification: those of the history that it read, and then
those that reached it. -/
def due (s : Reading) : List (EventSource × RoomEvent) :=
  offers s.timelines s.follower.roomId s.history s.heard

/-- The id of the event of an item. -/
def itemId (i : EventSource × RoomEvent) : String := i.2.eventId

/-- Every event of the room since the request is in the history, reached the follower or is on its
way. -/
def Covers (s : Reading) : Prop :=
  ∀ e, Entry.event e ∈ s.timelines.since s.follower.roomId s.verification.transaction.id →
    Entry.event e ∈ s.history ∨ e ∈ s.heard ∨ e ∈ s.underWay

/-- Nothing happens until something reaches the follower. -/
def Rests (s : Reading) : Prop :=
  s.stage = .gone ∨ s.follower.move? s.timelines s.verification = none

/-- The follower waits for the decryption of an entry of the history. -/
def AwaitsDecryption (s : Reading) : Prop :=
  ∃ entry rest, s.follower.phase = .replaying (entry :: rest) ∧
    s.timelines.resolve entry = .waiting

/-- More moves than a follower can make before it rests. -/
def workload (s : Reading) : Nat := s.follower.workload s.remembered.length

/-- The histories are in order, and the follower missed nothing of its room. -/
structure Sane (s : Reading) : Prop where
  sound : s.timelines.Sound
  /-- What was read is still the beginning of what is there. -/
  recalled : s.history <+: s.timelines.since s.follower.roomId s.verification.transaction.id
  /-- Before the history is read, there is none. -/
  unread : s.follower.phase = .opening → s.history = []
  away : s.stage = .away → s.follower.phase = .opening
  covers : s.stage = .attending → s.follower.phase ≠ .opening → s.Covers
  settled : s.stage = .gone → s.verification.IsSettled

/-- What is left of the history, and what was taken from the events that came in, in some phase. -/
def Stands (v : Verification) (left : List Entry) (taken : List RoomEvent) : FollowerPhase → Prop
  | .opening => taken = []
  | .replaying entries => left = entries ∧ taken = []
  | .following => left = [] ∨ v.isTerminal = true ∧ taken = []

/-- A follower has passed some entries of the history, with others left, and taken some of the
events that reached it. -/
structure Merges (s : Reading) (passed left : List Entry) (taken : List RoomEvent) : Prop where
  history : s.history = passed ++ left
  heard : s.heard = taken ++ s.follower.feed.items
  resolved : ∀ entry ∈ passed, s.timelines.resolve entry ≠ .waiting
  handed : s.handed.map (·.item) =
    firsts itemId (offers s.timelines s.follower.roomId passed taken)
  seen : ∀ id, id ∈ s.follower.seen ↔ id ∈ s.handed.map (·.event.eventId)
  running : ∀ h ∈ s.handed, h.before.isTerminal = false
  phase : Stands s.verification left taken s.follower.phase

/-- Where a follower stands between its two sources. -/
def Merged (s : Reading) : Prop := ∃ passed left taken, s.Merges passed left taken

/-- A follower that is further on has passed some entries of the history, with others left, and
taken some of the events that reached it. -/
structure Ahead (s : Reading) (next : Follower) (passed left : List Entry)
    (taken : List RoomEvent) : Prop where
  room : next.roomId = s.follower.roomId
  history : s.remembered = passed ++ left
  heard : s.heard = taken ++ next.feed.items
  resolved : ∀ entry ∈ passed, s.timelines.resolve entry ≠ .waiting
  phase : Stands s.verification left taken next.phase

variable {s s' : Reading} {passed left : List Entry} {taken : List RoomEvent} {t t' : Timelines}
  {roomId : String} {a : Answers} {op? : Option Operation}

/-! ## Offers -/

theorem offers_congr (same : ∀ entry ∈ passed, t'.resolve entry = t.resolve entry) :
    offers t' roomId passed taken = offers t roomId passed taken := by
  have events : passed.filterMap t'.event? = passed.filterMap t.event? := by
    refine List.filterMap_congr ?_
    intro entry mem
    unfold Timelines.event?
    rw [same entry mem]
  unfold offers
  rw [events]

/-- An entry that is passed adds its event, if it has one. -/
theorem offers_entry (t : Timelines) (roomId : String) (passed : List Entry) (entry : Entry) :
    offers t roomId (passed ++ [entry]) [] = offers t roomId passed [] ++
      ((t.event? entry).toList.filter fun e => e.roomId = roomId).map fun e => (.history, e) := by
  unfold offers
  rw [List.filterMap_append, List.filter_append, List.map_append]
  cases event : t.event? entry <;> simp [event]

/-- An event that is taken adds itself. -/
theorem offers_event (t : Timelines) (roomId : String) (passed : List Entry)
    (taken : List RoomEvent) (e : RoomEvent) :
    offers t roomId passed (taken ++ [e]) = offers t roomId passed taken ++
      ([e].filter fun e => e.roomId = roomId).map fun e => (.live, e) := by
  unfold offers
  rw [List.filter_append, List.map_append, List.append_assoc]

/-- What was passed and taken comes first of everything. -/
theorem offers_prefix (t : Timelines) (roomId : String) (order : left = [] ∨ taken = [])
    (more : List RoomEvent) :
    offers t roomId passed taken <+: offers t roomId (passed ++ left) (taken ++ more) := by
  unfold offers
  rcases order with rfl | rfl
  · rw [List.append_nil, List.filter_append, List.map_append, ← List.append_assoc]
    exact List.prefix_append _ _
  · rw [List.filterMap_append, List.filter_append, List.map_append, List.filter_nil, List.map_nil,
      List.append_nil, List.append_assoc]
    exact List.prefix_append _ _

/-! ## What a follower makes of an event -/

theorem Stands.mono {v v' : Verification} {phase : FollowerPhase} (h : Stands v left taken phase)
    (terminal : v.isTerminal = true → v'.isTerminal = true) : Stands v' left taken phase := by
  cases phase with
  | opening | replaying => exact h
  | following => exact h.imp id fun ended => ⟨terminal ended.1, ended.2⟩

namespace Merges

/-- The order in which a follower goes through its sources. -/
theorem order (h : s.Merges passed left taken) : left = [] ∨ taken = [] := by
  have phase := h.phase
  cases at_ : s.follower.phase with
  | opening =>
    rw [at_] at phase
    exact .inr phase
  | replaying entries =>
    rw [at_] at phase
    exact .inr phase.2
  | following =>
    rw [at_] at phase
    exact phase.imp id (·.2)

/-- A follower that did not read the history yet has nothing behind itself. -/
theorem nothing (h : s.Merges passed left taken) (sane : s.Sane)
    (at_ : s.follower.phase = .opening) : passed = [] ∧ left = [] ∧ taken = [] := by
  have unread : passed ++ left = [] := h.history.symm.trans (sane.unread at_)
  obtain ⟨none, none'⟩ := List.append_eq_nil_iff.1 unread
  have phase := h.phase
  rw [at_] at phase
  exact ⟨none, none', phase⟩

/-- The next event is a first occurrence exactly if the follower takes it. -/
theorem firsts_offers_concat (h : s.Merges passed left taken) (source : EventSource)
    (e : RoomEvent) :
    firsts itemId (offers s.timelines s.follower.roomId passed taken ++
        ([e].filter fun e => e.roomId = s.follower.roomId).map fun e => (source, e)) =
      s.handed.map (·.item) ++ if s.follower.Takes e then [(source, e)] else [] := by
  have known : e.eventId ∈ s.follower.seen ↔
      itemId (source, e) ∈ (offers s.timelines s.follower.roomId passed taken).map itemId := by
    rw [h.seen, ← mem_map_firsts itemId, ← h.handed, List.map_map]
    rfl
  by_cases room : e.roomId = s.follower.roomId
  · have one : ([e].filter fun e => e.roomId = s.follower.roomId) = [e] := by simp [room]
    rw [one, List.map_singleton, firsts_concat, ← h.handed]
    by_cases old : e.eventId ∈ s.follower.seen
    · rw [if_pos (known.1 old), if_neg (fun takes => takes.2 old)]
    · rw [if_neg (fun there => old (known.2 there)), if_pos ⟨room, old⟩]
  · have none : ([e].filter fun e => e.roomId = s.follower.roomId) = [] := by simp [room]
    rw [none, List.map_nil, List.append_nil, ← h.handed, if_neg (fun takes => room takes.1),
      List.append_nil]

/-- What a follower has behind itself once it came to the next event. -/
theorem comes (h : s.Merges passed left taken) {source : EventSource} {e : RoomEvent}
    {f : Follower} (comes : s.follower.Comes s.timelines source e f)
    (running : s.verification.isTerminal = false) :
    ∃ passed' left' taken', s.Ahead f passed' left' taken' ∧
      offers s.timelines s.follower.roomId passed' taken' =
        offers s.timelines s.follower.roomId passed taken ++
          ([e].filter fun e => e.roomId = s.follower.roomId).map (fun e => (source, e)) := by
  have phase := h.phase
  cases comes with
  | @history entry rest _ at_ resolved =>
    rw [at_] at phase
    obtain ⟨rfl, rfl⟩ := phase
    refine ⟨passed ++ [entry], rest, [], ⟨rfl, ?_, h.heard, ?_, rfl, rfl⟩, ?_⟩
    · rw [remembered_eq (by simp [at_]), h.history, List.append_assoc]
      rfl
    · intro entry' mem
      rcases List.mem_append.1 mem with old | new
      · exact h.resolved entry' old
      · rw [List.mem_singleton.1 new, resolved]
        simp
    · rw [offers_entry, Timelines.event?_eq_some_iff.2 resolved]
      rfl
  | @live _ items at_ waiting =>
    rw [at_] at phase
    have nothing : left = [] := by
      rcases phase with nothing | ⟨terminal, -⟩
      · exact nothing
      · cases running.symm.trans terminal
    have history := (remembered_eq (by simp [at_])).trans h.history
    refine ⟨passed, left, taken ++ [e], ⟨rfl, history, ?_, h.resolved, ?_⟩,
      offers_event _ _ _ _ _⟩
    · rw [h.heard, waiting, List.append_assoc]
      rfl
    · show Stands _ _ _ s.follower.phase
      rw [at_]
      exact .inl nothing

/-- A follower stands where it stood as long as nothing about it changes, and what it passed stays
as it is. -/
theorem keep (h : s.Merges passed left taken) (follower : s'.follower = s.follower)
    (history : s'.history = s.history) (heard : s'.heard = s.heard) (handed : s'.handed = s.handed)
    (resolve : ∀ entry ∈ passed, s'.timelines.resolve entry = s.timelines.resolve entry)
    (terminal : s.verification.isTerminal = true → s'.verification.isTerminal = true) :
    s'.Merged := by
  refine ⟨passed, left, taken, ?_⟩
  constructor
  case history => rw [history, h.history]
  case heard => rw [heard, h.heard, follower]
  case resolved =>
    intro entry mem
    rw [resolve entry mem]
    exact h.resolved entry mem
  case handed => rw [handed, follower, offers_congr resolve, h.handed]
  case seen => rw [handed, follower]; exact h.seen
  case running => rw [handed]; exact h.running
  case phase =>
    rw [follower]
    exact h.phase.mono terminal

/-- Where a follower stands after a move. -/
theorem of_advance (h : s.Merges passed left taken) {next : Follower}
    {item? : Option (EventSource × RoomEvent)} {passed' left' : List Entry}
    {taken' : List RoomEvent} (ahead : s.Ahead next passed' left' taken')
    (given : s.follower.handing? s.timelines s.verification = item?)
    (awake : item?.isSome = true → s.verification.isTerminal = false)
    (handed : firsts itemId (offers s.timelines s.follower.roomId passed' taken') =
      s.handed.map (·.item) ++ item?.toList)
    (seen : next.seen = item?.toList.map itemId ++ s.follower.seen) :
    ((s.advance a next).performs a op?).Merged := by
  have handing : s.handing? a = item?.map fun i => ⟨i.1, i.2, s.verification, a⟩ := by
    rw [Reading.handing?, given]
  refine ⟨passed', left', taken', ?_⟩
  constructor
  case history => rw [performs_history]; exact ahead.history
  case heard => rw [performs_heard, performs_follower]; exact ahead.heard
  case resolved => rw [performs_timelines]; exact ahead.resolved
  case handed =>
    rw [performs_handed, performs_timelines, performs_follower]
    show (s.handed ++ (s.handing? a).toList).map (·.item) =
      firsts itemId (offers s.timelines next.roomId passed' taken')
    rw [ahead.room, handed, handing, List.map_append]
    cases item? <;> rfl
  case seen =>
    intro id
    rw [performs_handed, performs_follower]
    show id ∈ next.seen ↔ id ∈ (s.handed ++ (s.handing? a).toList).map (·.event.eventId)
    rw [seen, handing, List.map_append, List.mem_append, List.mem_append, h.seen, or_comm]
    cases item? <;> rfl
  case running =>
    intro handing' mem
    rw [performs_handed] at mem
    rcases List.mem_append.1 mem with old | new
    · exact h.running handing' old
    · rw [handing] at new
      cases item? with
      | none => cases new
      | some i =>
        rw [List.mem_singleton.1 new]
        exact awake rfl
  case phase =>
    rw [performs_follower]
    refine ahead.phase.mono fun terminal => ?_
    have settled : (s.advance a next).verification.IsSettled := .inl terminal
    rw [performs_of_isSettled _ _ _ settled]
    exact terminal

/-- One move keeps what a follower has behind itself in order. -/
theorem go (h : s.Merges passed left taken) (sane : s.Sane) {next : Follower}
    {item? : Option (EventSource × RoomEvent)}
    (given : s.follower.handing? s.timelines s.verification = item?)
    (moves : s.follower.Moves s.timelines s.verification (.go next op?) item?) :
    ((s.advance a next).performs a op?).Merged := by
  have handed : firsts itemId (offers s.timelines s.follower.roomId passed taken) =
      s.handed.map (·.item) ++ [] := by
    rw [List.append_nil, h.handed]
  have phase := h.phase
  cases moves with
  | @opens entries at_ read =>
    obtain ⟨rfl, rfl, rfl⟩ := h.nothing sane at_
    have history : s.remembered = [] ++ entries := by simp [remembered, at_, read, Except.toOption]
    exact h.of_advance ⟨rfl, history, h.heard, h.resolved, rfl, rfl⟩ given nofun handed rfl
  | misses at_ read =>
    obtain ⟨rfl, rfl, rfl⟩ := h.nothing sane at_
    have history : s.remembered = [] ++ [] := by simp [remembered, at_, read, Except.toOption]
    exact h.of_advance ⟨rfl, history, h.heard, h.resolved, .inl rfl⟩ given nofun handed rfl
  | @leaves entries at_ ended =>
    rw [at_] at phase
    obtain ⟨rfl, rfl⟩ := phase
    have history := (remembered_eq (by simp [at_])).trans h.history
    have stands : Stands s.verification left [] .following :=
      ended.imp id fun terminal => ⟨terminal, rfl⟩
    exact h.of_advance ⟨rfl, history, h.heard, h.resolved, stands⟩ given nofun handed rfl
  | @drops entry rest at_ running lost =>
    rw [at_] at phase
    obtain ⟨rfl, rfl⟩ := phase
    have ahead : s.Ahead { s.follower with phase := .replaying rest } (passed ++ [entry]) rest
        [] := by
      refine ⟨rfl, ?_, h.heard, ?_, rfl, rfl⟩
      · rw [remembered_eq (by simp [at_]), h.history, List.append_assoc]
        rfl
      · intro entry' mem
        rcases List.mem_append.1 mem with old | new
        · exact h.resolved entry' old
        · rw [List.mem_singleton.1 new, lost]
          simp
    refine h.of_advance ahead given nofun ?_ rfl
    have none : s.timelines.event? entry = none := by
      unfold Timelines.event?
      rw [lost]
    rw [offers_entry, none, Option.toList_none, List.filter_nil, List.map_nil, List.append_nil]
    exact handed
  | @takes source e f comes running takes =>
    obtain ⟨passed', left', taken', ahead, offered⟩ := h.comes comes running
    have ahead' : s.Ahead { f with seen := e.eventId :: s.follower.seen } passed' left' taken' :=
      ⟨ahead.room, ahead.history, ahead.heard, ahead.resolved, ahead.phase⟩
    refine h.of_advance ahead' given (fun _ => running) ?_ rfl
    rw [offered, h.firsts_offers_concat, if_pos takes]
    rfl
  | @skips source e f comes running known =>
    obtain ⟨passed', left', taken', ahead, offered⟩ := h.comes comes running
    refine h.of_advance ahead given nofun ?_ comes.same.2.1
    rw [offered, h.firsts_offers_concat, if_neg known]
    rfl

end Merges

/-! ## Whatever happens -/

/-- A follower that has not subscribed knows nothing. -/
theorem sane_begin (v : Verification) (keys : KeySource) (f : Follower) :
    (begin v keys f).Sane where
  sound := Timelines.sound_empty
  recalled := List.nil_prefix
  unread _ := rfl
  away _ := rfl
  covers attending := by cases attending
  settled gone := by cases gone

theorem merged_begin (v : Verification) (keys : KeySource) (f : Follower) :
    (begin v keys f).Merged := by
  refine ⟨[], [], [], ?_⟩
  constructor
  case history => rfl
  case heard => rfl
  case resolved => simp
  case handed => rfl
  case seen => exact fun id => Iff.rfl
  case running => exact fun h mem => by cases mem
  case phase => rfl

namespace Sane

/-- An event that is appended is on its way. -/
theorem store (h : s.Sane) (e : RoomEvent) : (s.store e).Sane where
  sound := h.sound.append _ _
  recalled := h.recalled.trans (Timelines.since_prefix_append _ _ _ _ _)
  unread := h.unread
  away := h.away
  covers attending read e' mem := by
    rcases Timelines.mem_since_append mem with old | new
    · exact (h.covers attending read e' old).imp id (.imp id (List.mem_append_left [e]))
    · cases new
      exact .inr (.inr (List.mem_append_right _ (List.mem_singleton.2 rfl)))
  settled := h.settled

theorem pend (h : s.Sane) (roomId eventId : String) :
    (s.after (.pend roomId eventId)).Sane where
  sound := h.sound.appendPending _ _
  recalled := h.recalled.trans (Timelines.since_prefix_append _ _ _ _ _)
  unread := h.unread
  away := h.away
  covers attending read e mem := by
    rcases Timelines.mem_since_append mem with old | new
    · exact h.covers attending read e old
    · cases new
  settled := h.settled

/-- An event on its way reaches a follower that listens. -/
theorem broadcast (h : s.Sane) (e : RoomEvent) : (s.broadcast e).Sane := by
  by_cases attending : s.stage = .attending
  · simp only [Reading.broadcast, if_pos attending]
    constructor
    case sound => exact h.sound
    case recalled => exact h.recalled
    case unread => exact h.unread
    case away => exact h.away
    case settled => exact h.settled
    case covers =>
      intro attending' read e' mem
      rcases h.covers attending' read e' mem with found | heard | coming
      · exact .inl found
      · exact .inr (.inl (List.mem_append_left _ heard))
      · by_cases same : e' = e
        · exact .inr (.inl (List.mem_append_right _ (List.mem_singleton.2 same)))
        · exact .inr (.inr ((List.mem_erase_of_ne same).2 coming))
  · simp only [Reading.broadcast, if_neg attending]
    exact ⟨h.sound, h.recalled, h.unread, h.away, fun attending' => absurd attending' attending,
      h.settled⟩

theorem post (h : s.Sane) (eventId : String) (timestamp : UInt64) :
    (s.post eventId timestamp).Sane := by
  unfold Reading.post
  split
  · exact h
  · refine store ?_ _
    exact ⟨h.sound, h.recalled, h.unread, h.away, h.covers, h.settled⟩

/-- An action changes nothing of what the follower reads. -/
theorem act (h : s.Sane) (a : Answers) {op : Operation} (isLocal : op.isLocal = true) :
    (s.perform a op).Sane := by
  have stage : (s.perform a op).stage = s.stage := by simp [perform, isLocal]
  have transaction : (s.perform a op).verification.transaction = s.verification.transaction :=
    (sameTerms_performs s a (some op)).transaction
  constructor
  case sound => exact h.sound
  case recalled => rw [transaction]; exact h.recalled
  case unread => exact h.unread
  case away => rw [stage]; exact h.away
  case covers =>
    rw [stage]
    intro attending read e mem
    rw [transaction] at mem
    exact h.covers attending read e mem
  case settled =>
    rw [stage]
    intro gone
    have settled := h.settled gone
    rwa [← performs_of_isSettled s a (some op) settled] at settled

/-- A follower listens on unless its operation never ends, which leaves the verification
waiting. -/
theorem stage_of_go (attending : s.stage = .attending) {next : Follower}
    {item? : Option (EventSource × RoomEvent)}
    (moves : s.follower.Moves s.timelines s.verification (.go next op?) item?) :
    ((s.advance a next).performs a op?).stage = .attending ∨
      ((s.advance a next).performs a op?).stage = .gone ∧
        ((s.advance a next).performs a op?).verification.IsSettled := by
  cases op? with
  | none => exact .inl attending
  | some op =>
    have foreign : op.isLocal = false := moves.isLocal_eq_false
    rw [performs_some, perform_stage a foreign]
    split
    · rename_i waiting
      exact .inr ⟨rfl, .inr (Verification.held_of_waiting foreign waiting)⟩
    · exact .inl attending

/-- The history that is read is all that is there from the request on. -/
theorem go (h : s.Sane) (attending : s.stage = .attending) {next : Follower}
    {item? : Option (EventSource × RoomEvent)}
    (moves : s.follower.Moves s.timelines s.verification (.go next op?) item?) :
    ((s.advance a next).performs a op?).Sane := by
  obtain ⟨-, room, opened⟩ := moves.same
  have transaction : ((s.advance a next).performs a op?).verification.transaction =
      s.verification.transaction := (sameTerms_performs (s.advance a next) a op?).transaction
  have recalled : s.remembered <+:
      s.timelines.since s.follower.roomId s.verification.transaction.id := by
    unfold remembered
    split
    · rw [Timelines.toOption_readFrom]
    · exact h.recalled
  have stage := stage_of_go (a := a) attending moves
  constructor
  case sound => rw [performs_timelines]; exact h.sound
  case recalled =>
    rw [performs_history, performs_timelines, performs_follower, transaction]
    show s.remembered <+: s.timelines.since next.roomId _
    rw [room]
    exact recalled
  case unread =>
    rw [performs_follower]
    exact fun opening => absurd opening opened
  case away =>
    intro away
    rcases stage with stage | ⟨stage, -⟩ <;> cases stage.symm.trans away
  case covers =>
    intro _ _ e mem
    rw [performs_timelines, performs_follower, transaction] at mem
    rw [performs_history, performs_heard, performs_underWay]
    change Entry.event e ∈ s.timelines.since next.roomId _ at mem
    rw [room] at mem
    show Entry.event e ∈ s.remembered ∨ e ∈ s.heard ∨ e ∈ s.underWay
    by_cases opening : s.follower.phase = .opening
    · refine .inl ?_
      unfold remembered
      rw [opening]
      simpa only [Timelines.toOption_readFrom] using mem
    · rw [remembered_eq opening]
      exact h.covers attending opening e mem
  case settled =>
    intro gone
    rcases stage with stage | ⟨-, settled⟩
    · cases stage.symm.trans gone
    · exact settled

/-- Whatever happens, the follower misses nothing of its room. -/
theorem after (h : s.Sane) (x : Happening) (allowed : s.Allows x) : (s.after x).Sane := by
  cases x with
  | subscribe =>
    have opening : s.follower.phase = .opening := h.away allowed
    exact ⟨h.sound, h.recalled, h.unread, fun _ => opening, fun _ read => absurd opening read,
      nofun⟩
  | append e => exact h.store e
  | pend roomId eventId => exact h.pend roomId eventId
  | decrypt place d =>
    exact ⟨h.sound.decrypt place d, h.recalled, h.unread, h.away, h.covers, h.settled⟩
  | broadcast e => exact h.broadcast e
  | act op a => exact h.act a allowed
  | post eventId timestamp => exact h.post eventId timestamp
  | read a =>
    show (s.read a).Sane
    cases move : s.follower.move? s.timelines s.verification with
    | none => rwa [read_wait a move]
    | some m =>
      have moves := Follower.moves_of_move? move
      cases m with
      | finish =>
        rw [read_finish a move]
        generalize s.follower.handing? s.timelines s.verification = item? at moves
        cases moves with
        | finishes _ terminal =>
          exact ⟨h.sound, h.recalled, h.unread, nofun, nofun, fun _ => .inl terminal⟩
      | go next op? =>
        rw [read_go a move]
        exact h.go allowed moves

end Sane

/-- Whatever happens, a follower stands somewhere between its two sources. -/
theorem Merged.after (h : s.Merged) (sane : s.Sane) (x : Happening) (allowed : s.Allows x) :
    (s.after x).Merged := by
  obtain ⟨passed, left, taken, merges⟩ := h
  cases x with
  | subscribe => exact merges.keep rfl rfl rfl rfl (fun _ _ => rfl) id
  | append e =>
    exact merges.keep rfl rfl rfl rfl (fun _ _ => Timelines.resolve_append _ _ _ _) id
  | pend roomId eventId =>
    refine merges.keep rfl rfl rfl rfl ?_ id
    intro entry mem
    have recalled : entry ∈ s.history := merges.history ▸ List.mem_append_left left mem
    have stored := Timelines.mem_entries_of_mem_since (sane.recalled.subset recalled)
    exact Timelines.resolve_appendPending (sane.sound _ entry stored) roomId eventId
  | decrypt place d =>
    refine merges.keep rfl rfl rfl rfl ?_ id
    intro entry mem
    exact Timelines.resolve_decrypt allowed (merges.resolved entry mem)
  | broadcast e =>
    show (s.broadcast e).Merged
    by_cases attending : s.stage = .attending
    · have room : s.follower.feed.items.length < Feed.messageCapacity := allowed.2 attending
      refine ⟨passed, left, taken ++ [], ?_⟩
      simp only [Reading.broadcast, if_pos attending, List.append_nil]
      refine ⟨merges.history, ?_, merges.resolved, merges.handed, merges.seen, merges.running,
        merges.phase⟩
      show s.heard ++ [e] = taken ++ (s.follower.feed.push Feed.messageCapacity e).items
      rw [Feed.push, if_pos room, merges.heard, List.append_assoc]
    · simp only [Reading.broadcast, if_neg attending]
      exact merges.keep rfl rfl rfl rfl (fun _ _ => rfl) id
  | act op a =>
    refine merges.keep rfl rfl rfl rfl (fun _ _ => rfl) ?_
    intro terminal
    have same := performs_of_isSettled s a (some op) (.inl terminal)
    rwa [← same] at terminal
  | post eventId timestamp =>
    show (s.post eventId timestamp).Merged
    unfold Reading.post
    split
    · exact ⟨passed, left, taken, merges⟩
    · exact merges.keep rfl rfl rfl rfl (fun _ _ => Timelines.resolve_append _ _ _ _) id
  | read a =>
    show (s.read a).Merged
    cases move : s.follower.move? s.timelines s.verification with
    | none =>
      rw [read_wait a move]
      exact ⟨passed, left, taken, merges⟩
    | some m =>
      cases m with
      | finish =>
        rw [read_finish a move]
        exact merges.keep rfl rfl rfl rfl (fun _ _ => rfl) id
      | go next op? =>
        rw [read_go a move]
        exact merges.go sane rfl (Follower.moves_of_move? move)

namespace Leads

variable {v : Verification} {keys : KeySource} {f : Follower} {l : List Happening}

theorem sane (h : (begin v keys f).Leads l s) : s.Sane :=
  h.induction (sane_begin v keys f) fun _ x _ sane allowed => sane.after x allowed

theorem merged (h : (begin v keys f).Leads l s) : s.Merged := by
  have both : s.Sane ∧ s.Merged := by
    refine h.induction (P := fun s => s.Sane ∧ s.Merged)
      ⟨sane_begin v keys f, merged_begin v keys f⟩ ?_
    intro s x _ both allowed
    exact ⟨both.1.after x allowed, both.2.after both.1 x allowed⟩
  exact both.2

end Leads

/-! ## What the verification comes to -/

/-- The operation that something that happens performs on the verification. -/
def operation? (s : Reading) : Happening → Option (Operation × Answers)
  | .act op a => some (op, a)
  | .read a =>
    match s.follower.move? s.timelines s.verification with
    | some (.go _ (some op)) => some (op, a)
    | _ => none
  | _ => none

/-- The operations that are performed on the verification while some things happen. -/
def operations (s : Reading) : List Happening → List (Operation × Answers)
  | [] => []
  | x :: rest => (s.operation? x).toList ++ (s.after x).operations rest

/-- The run of the verification while some things happen. -/
def ran (s : Reading) (l : List Happening) : Verification.Run :=
  (Verification.Run.begin s.verification s.keys).steps (s.operations l)

/-- A run is that of the verification that is followed, and what it performed for events is what the
events that were handed over stand for, in their order and each on the verification that it
found. -/
structure Tells (s : Reading) (r : Verification.Run) : Prop where
  verification : r.verification = s.verification
  source : r.source = s.keys
  ofEvents : r.ofEvents = s.handed.filterMap (·.performed? s.follower.reader)

namespace Tells

variable {r : Verification.Run}

/-- An operation is performed on the verification and the key source of the reading. -/
theorem step_eq (h : s.Tells r) (op : Operation) (a : Answers) :
    r.step (op, a) = r.extend op a (s.verification.perform a op s.keys) := by
  rw [Verification.Run.step, h.verification, h.source]

/-- What does not come of an event leaves what was handed over alone. -/
theorem perform (h : s.Tells r) {op : Operation} (other : op.isOfEvent = false) (a : Answers) :
    (s.perform a op).Tells (r.step (op, a)) where
  verification := congrArg Verification.Run.verification (h.step_eq op a)
  source := congrArg Verification.Run.source (h.step_eq op a)
  ofEvents := by
    rw [Verification.Run.ofEvents_step, other]
    exact (List.append_nil _).trans h.ofEvents

/-- The follower goes on without an event. -/
theorem pass (h : s.Tells r) {next : Follower} (reader : next.reader = s.follower.reader)
    (given : s.follower.handing? s.timelines s.verification = none) :
    (s.advance a next).Tells r where
  verification := h.verification
  source := h.source
  ofEvents := by
    have handing : s.handing? a = none := by rw [Reading.handing?, given]; rfl
    show _ = (s.handed ++ (s.handing? a).toList).filterMap (·.performed? next.reader)
    rw [handing, reader, Option.toList_none, List.append_nil]
    exact h.ofEvents

/-- The follower takes an event, and performs what it is. -/
theorem take (h : s.Tells r) {next : Follower} (reader : next.reader = s.follower.reader)
    {source : EventSource} {e : RoomEvent}
    (given : s.follower.handing? s.timelines s.verification = some (source, e))
    (means : op? = operationOf s.follower.reader s.verification source e) :
    ((s.advance a next).performs a op?).Tells (r.steps (op?.map (·, a)).toList) := by
  have handed : ((s.advance a next).performs a op?).handed.filterMap
      (·.performed? s.follower.reader) = r.ofEvents ++ (op?.map (s.verification, ·, a)).toList := by
    have handing : s.handing? a = some ⟨source, e, s.verification, a⟩ := by
      rw [Reading.handing?, given]
      rfl
    rw [performs_handed]
    show (s.handed ++ (s.handing? a).toList).filterMap _ = _
    rw [handing, List.filterMap_append, ← h.ofEvents, Option.toList_some, List.filterMap_cons,
      List.filterMap_nil]
    simp only [Handing.performed?, Handing.operation?, ← means]
    cases op? <;> rfl
  rw [← reader] at handed
  cases op? with
  | none =>
    refine ⟨h.verification, h.source, ?_⟩
    show r.ofEvents = _
    rw [performs_follower]
    exact (handed.trans (List.append_nil _)).symm
  | some op =>
    have comes : op.isOfEvent = true := isOfEvent_of_operationOf means.symm
    refine ⟨congrArg Verification.Run.verification (h.step_eq op a),
      congrArg Verification.Run.source (h.step_eq op a), ?_⟩
    show (r.step (op, a)).ofEvents = _
    rw [performs_follower, Verification.Run.ofEvents_step, comes, h.verification]
    exact handed.symm

/-- Whatever happens, the run goes on with what it performs. -/
theorem after (h : s.Tells r) (x : Happening) (allowed : s.Allows x) :
    (s.after x).Tells (r.steps (s.operation? x).toList) := by
  have beside {s' : Reading} (same : s.Beside s') : s'.Tells r := by
    refine ⟨h.verification.trans same.verification.symm, h.source.trans same.keys.symm, ?_⟩
    rw [same.handed, same.reader]
    exact h.ofEvents
  cases x with
  | subscribe | append | pend | decrypt => exact beside ⟨rfl, rfl, rfl, rfl, rfl⟩
  | broadcast e =>
    show (s.broadcast e).Tells r
    unfold broadcast
    split <;> exact beside ⟨rfl, rfl, rfl, rfl, rfl⟩
  | post eventId timestamp =>
    show (s.post eventId timestamp).Tells r
    unfold post
    split <;> exact beside ⟨rfl, rfl, rfl, rfl, rfl⟩
  | act op a => exact h.perform (Operation.isOfEvent_of_isLocal allowed) a
  | read a =>
    show (s.read a).Tells _
    cases move : s.follower.move? s.timelines s.verification with
    | none =>
      simp only [operation?, move, read_wait a move]
      exact h
    | some m =>
      cases m with
      | finish =>
        simp only [operation?, move, read_finish a move]
        exact beside ⟨rfl, rfl, rfl, rfl, rfl⟩
      | go next op? =>
        have moves := Follower.moves_of_move? move
        have reader := moves.same.1
        have performs : (s.operation? (.read a)).toList = (op?.map (·, a)).toList := by
          simp only [operation?, move]
          cases op? <;> rfl
        rw [read_go a move, performs]
        generalize given : s.follower.handing? s.timelines s.verification = item? at moves
        cases moves with
        | opens | drops | skips => exact h.pass reader given
        | misses | leaves => exact (h.pass reader given).perform rfl a
        | takes comes running takes => exact h.take reader given rfl

end Tells

theorem tells_begin (v : Verification) (keys : KeySource) (f : Follower) :
    (begin v keys f).Tells (.begin v keys) := ⟨rfl, rfl, rfl⟩

/-- The run of a verification that is followed performs what its follower and the actions make of
it. -/
theorem Tells.run {r : Verification.Run} {l : List Happening} (h : s.Tells r)
    (permitted : s.Permits l) : (s.run l).Tells (r.steps (s.operations l)) := by
  induction l generalizing s r with
  | nil => exact h
  | cons x rest ih =>
    rw [operations, Verification.Run.steps, List.foldl_append]
    exact ih (h.after x permitted.1) permitted.2

/-! ## Coming to rest -/

/-- Every move brings a follower nearer to its rest. -/
theorem workload_lt {next : Follower} {item? : Option (EventSource × RoomEvent)}
    (moves : s.follower.Moves s.timelines s.verification (.go next op?) item?) :
    ((s.advance a next).performs a op?).workload < s.workload := by
  unfold workload
  rw [performs_follower]
  show next.workload _ < s.follower.workload _
  generalize ((s.advance a next).performs a op?).remembered.length = n
  unfold Follower.workload
  cases moves with
  | opens at_ read =>
    rw [at_]
    simp [remembered, at_, read, Except.toOption]
  | misses at_ read =>
    rw [at_]
    simp only
    omega
  | leaves at_ ended =>
    rw [at_]
    simp only
    omega
  | drops at_ running lost =>
    rw [at_]
    simp only [List.length_cons]
    omega
  | takes comes | skips comes =>
    cases comes with
    | history at_ resolved =>
      rw [at_]
      simp only [List.length_cons]
      omega
    | live at_ waiting =>
      simp only [at_, waiting, List.length_cons]
      omega

/-- A follower that listens comes to rest if it is let. -/
theorem rests_of_reads (attending : s.stage = .attending) (answers : List Answers)
    (enough : s.workload ≤ answers.length) :
    ∃ k s', s.Leads ((answers.take k).map .read) s' ∧ s'.Rests := by
  induction answers generalizing s with
  | nil =>
    have some : 0 < s.workload := by
      unfold workload Follower.workload
      split <;> omega
    simp only [List.length_nil] at enough
    omega
  | cons a rest ih =>
    cases move : s.follower.move? s.timelines s.verification with
    | none => exact ⟨0, s, .nil s, .inr move⟩
    | some m =>
      cases m with
      | finish =>
        have ended : (s.read a).stage = .gone := by rw [read_finish a move]
        exact ⟨1, s.read a, .cons attending (.nil _), .inl ended⟩
      | go next op? =>
        have moves := Follower.moves_of_move? move
        rcases Sane.stage_of_go (a := a) attending moves with listens | ⟨ended, -⟩
        · have less := workload_lt (a := a) moves
          rw [← read_go a move] at listens less
          simp only [List.length_cons] at enough
          obtain ⟨k, s', leads, rests⟩ := ih listens (by omega)
          exact ⟨k + 1, s', .cons attending leads, rests⟩
        · rw [← read_go a move] at ended
          exact ⟨1, s.read a, .cons attending (.nil _), .inl ended⟩

namespace Leads

variable {v : Verification} {keys : KeySource} {f : Follower} {l : List Happening}

/-- What was handed over is a beginning of what is due. -/
theorem handed_prefix (h : (begin v keys f).Leads l s) :
    s.handed.map (·.item) <+: firsts itemId s.due := by
  obtain ⟨passed, left, taken, merges⟩ := h.merged
  obtain ⟨more, rest⟩ := offers_prefix s.timelines s.follower.roomId merges.order
    s.follower.feed.items
  rw [due, merges.history, merges.heard, merges.handed, ← rest]
  exact firsts_prefix itemId _ _

/-- What was performed for events is what the events that were handed over stand for. -/
theorem tells (h : (begin v keys f).Leads l s) : s.Tells ((begin v keys f).ran l) :=
  h.result ▸ (tells_begin v keys f).run h.permitted

/-- Whatever happens around it, a verification that is followed is one that operations lead to. -/
theorem reachable {own : Identity} {settings : Sas.Settings} {route : Route} {request : Request}
    (h : (begin (.ofRequest own settings route request) keys f).Leads l s) :
    s.verification.Reachable :=
  ⟨_, ⟨own, settings, route, request, keys, _, rfl⟩, h.tells.verification⟩

/-- A follower at rest has handed over everything, unless its verification is settled or it waits
for a decryption. -/
theorem complete (h : (begin v keys f).Leads l s) (rests : s.Rests) :
    s.verification.IsSettled ∨ s.AwaitsDecryption ∨
      s.handed.map (·.item) = firsts itemId s.due := by
  rcases rests with gone | still
  · exact .inl (h.sane.settled gone)
  · obtain ⟨passed, left, taken, merges⟩ := h.merged
    obtain ⟨waits, running⟩ := Follower.waits_of_move?_eq_none still
    cases waits with
    | decryption phase waiting => exact .inr (.inl ⟨_, _, phase, waiting⟩)
    | event phase nothing =>
      have ended := merges.phase
      rw [phase] at ended
      have all : left = [] := by
        rcases ended with all | ⟨terminal, -⟩
        · exact all
        · cases running.symm.trans terminal
      refine .inr (.inr ?_)
      rw [due, merges.history, merges.heard, merges.handed, all, nothing, List.append_nil,
        List.append_nil]

end Leads

/-- **No event of a room is lost or handed over twice.** Whenever events are appended and reach the
follower, wherever it subscribes and reads in between, and whatever becomes of entries that are
being decrypted: what it hands over, only while the verification runs, is a beginning of the first
occurrences by event id of the history it read, from the request on, and the events it heard. The
verification is what the operations that were performed make of it, and those of them that come of
events are the ones that the events handed over stand for, each on the verification that it found.
History and live events miss nothing of the room. A follower that is let comes to rest, and then it
has handed over all of them, unless the verification is settled or the history waits for a
decryption. -/
theorem hands_first_occurrences {v : Verification} {keys : KeySource} {f : Follower}
    {l : List Happening} (leads : (begin v keys f).Leads l s) :
    s.handed.map (·.item) <+: firsts itemId s.due ∧
      s.Tells ((begin v keys f).ran l) ∧
      (∀ h ∈ s.handed, h.before.isTerminal = false) ∧
      s.history <+: s.timelines.since s.follower.roomId s.verification.transaction.id ∧
      (s.stage = .attending → s.follower.phase ≠ .opening → s.Covers) ∧
      (s.Rests → s.verification.IsSettled ∨ s.AwaitsDecryption ∨
        s.handed.map (·.item) = firsts itemId s.due) ∧
      (s.stage = .attending → ∀ answers : List Answers, s.workload ≤ answers.length →
        ∃ k s', s.Leads ((answers.take k).map .read) s' ∧ s'.Rests) := by
  have sane := leads.sane
  obtain ⟨passed, left, taken, merges⟩ := leads.merged
  exact ⟨leads.handed_prefix, leads.tells, merges.running, sane.recalled, sane.covers,
    leads.complete, rests_of_reads⟩

/-! ### Bob follows a room -/

section

open Verification (sampleAnswers)

/-- Bob. -/
def sampleReader : Identity := ⟨"@bob:x", "BOB"⟩

/-- Alice's request in a room, as a device has it. -/
def sampleAskedInRoom (own : Identity) (isOwn : Bool) : Verification :=
  .ofRequest own .default (.room "!r")
    ⟨⟨"ALICE", [.sas], 0⟩, isOwn, if isOwn then "@bob:x" else "@alice:x", .conversation "$q"⟩

/-- An event of the room. -/
def sampleEvent (eventId sender : String) (message : Option ConversationMessage) : RoomEvent :=
  ⟨"!r", eventId, sender, 0, message⟩

/-- A step of somebody in the room. -/
def sampleStep (eventId sender : String) (step : Step) : RoomEvent :=
  sampleEvent eventId sender (some (.step "$q" step))

/-- Alice's request. -/
def sampleAsks : RoomEvent :=
  sampleEvent "$q" "@alice:x" (some (.request "@bob:x" ⟨"ALICE", [.sas], 0⟩))

/-- The follower of a device that has not subscribed yet. -/
def sampleFollower (reader : Identity) : Follower := ⟨0, reader, "!r", .opening, [], .empty, true⟩

/-- Bob's reading before anything happened. -/
def sampleBegin : Reading :=
  begin (sampleAskedInRoom sampleReader false) ⟨[]⟩ (sampleFollower sampleReader)

/-- Alice's start. -/
def sampleTheirStart : Step := .start (Sas.Settings.default.startContent "ALICE")

/-- Bob subscribes after the request and an event that is being decrypted, says that he is ready,
and reads while Alice's start is on its way. He hears the request and the start once more. -/
def sampleOverlap : List Happening :=
  let news (id : String) : RoomEvent := sampleEvent id "@carol:x" none
  let start := sampleStep "$1" "@alice:x" sampleTheirStart
  [.append sampleAsks, .pend "!r" "$p", .subscribe, .act .ready sampleAnswers, .append start,
    .read sampleAnswers, .read sampleAnswers, .broadcast sampleAsks,
    .decrypt 0 ⟨some (news "$p"), true⟩, .read sampleAnswers, .broadcast start,
    .append (news "$2"), .broadcast (news "$2")] ++
    List.replicate 5 (.read sampleAnswers)

/-- Bob hands over four events, the last one from what he heard, and one of them is a step that he
takes, once. -/
theorem hands_first_occurrences_sample :
    (sampleBegin.run sampleOverlap).handed.map (fun h => (h.source, h.event.eventId)) =
        [(.history, "$q"), (.history, "$p"), (.history, "$1"), (.live, "$2")] ∧
      (sampleBegin.run sampleOverlap).due.length = 6 ∧
      (sampleBegin.run sampleOverlap).handed.map (·.item) =
        firsts itemId (sampleBegin.run sampleOverlap).due ∧
      (sampleBegin.ran sampleOverlap).ofEvents.map (·.2.1) = [.receive none sampleTheirStart] := by
  have leads : sampleBegin.Leads sampleOverlap (sampleBegin.run sampleOverlap) :=
    ⟨by decide +kernel, rfl⟩
  obtain ⟨-, tells, -, -, -, complete, -⟩ := hands_first_occurrences leads
  have rests : (sampleBegin.run sampleOverlap).Rests :=
    .inr (Option.isNone_iff_eq_none.1 (by decide +kernel))
  have running : (sampleBegin.run sampleOverlap).verification.isTerminal = false ∧
      (sampleBegin.run sampleOverlap).verification.held = false := by decide +kernel
  have phase : (sampleBegin.run sampleOverlap).follower.phase = .following := by decide +kernel
  refine ⟨by decide +kernel, by decide +kernel, ?_, ?_⟩
  · rcases complete rests with settled | ⟨entry, rest, waits, -⟩ | all
    · rcases settled with terminal | held
      · cases running.1.symm.trans terminal
      · cases running.2.symm.trans held
    · cases phase.symm.trans waits
    · exact all
  · have performed : (sampleBegin.ran sampleOverlap).ofEvents = _ := tells.ofEvents
    rw [performed]
    decide +kernel

end

end Reading

end DeviceVerification
