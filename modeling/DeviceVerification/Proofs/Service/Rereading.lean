import DeviceVerification.Proofs.Service.Meaning
import DeviceVerification.Proofs.Service.Reading
import DeviceVerification.Proofs.Verification.Objection

/-!
# Reading the history again

A verification that is picked up from its room reads the history from the request on. If one of our
own cancellations is in it the verification has ended, and reading it again ends it again. That is
silent except for one thing: a step of the counterpart that comes before the cancellation may be one
that the verification objects to, as the earlier one may have done, and then it sends a cancellation
of its own (`cancelled_history_is_silent_or_objected_to`). Nothing that comes after our cancellation
matters, and no more than one step is ever sent.

`Verification.reread` is the verification after a history of events, one after the other. It is what
a follower comes to that takes them from its room (`Reading.attend_rereads`).
-/

namespace DeviceVerification

open Verification (Operation Run Unengaged)

namespace Verification

/-- The run once an event of the history was read. -/
def Run.read (reader : Identity) (r : Run) (past : RoomEvent × Answers) : Run :=
  match operationOf reader r.verification .history past.1 with
  | none => r
  | some op => r.step (op, past.2)

/-- A new verification of a request in a room, once it read a history. -/
def reread (own : Identity) (settings : Sas.Settings) (roomId : String) (request : Request)
    (source : KeySource) (history : List (RoomEvent × Answers)) : Run :=
  history.foldl (Run.read own) (Run.begin (ofRequest own settings (.room roomId) request) source)

/-- Two runs have come equally far: they left the same, and said the same. -/
structure Run.Level (r r' : Run) : Prop where
  verification : r'.verification = r.verification
  source : r'.source = r.source
  effects : r'.effects = r.effects

namespace Run.Level

variable {r r' r'' : Run}

theorem symm (h : r.Level r') : r'.Level r :=
  ⟨h.verification.symm, h.source.symm, h.effects.symm⟩

theorem trans (h : r.Level r') (h' : r'.Level r'') : r.Level r'' :=
  ⟨h'.verification.trans h.verification, h'.source.trans h.source, h'.effects.trans h.effects⟩

/-- A verification that has ended comes no further. -/
theorem step (ended : r.verification.isTerminal = true) (event : Operation × Answers) :
    r.Level (r.step event) := by
  obtain ⟨reply, still⟩ := perform_of_terminal ended event.2 event.1 r.source
  rw [Run.step, still]
  exact ⟨rfl, rfl, by rw [effects_extend, List.append_nil]⟩

/-- A verification that has ended reads on without noticing. -/
theorem reads (ended : r.verification.isTerminal = true) (reader : Identity)
    (history : List (RoomEvent × Answers)) : r.Level (history.foldl (Run.read reader) r) := by
  induction history using List.reverseRecOn with
  | nil => exact ⟨rfl, rfl, rfl⟩
  | append_singleton history past ih =>
    rw [List.foldl_append, List.foldl_cons, List.foldl_nil]
    refine ih.trans ?_
    unfold Run.read
    split
    · exact ⟨rfl, rfl, rfl⟩
    · exact .step (ih.verification ▸ ended) _

end Run.Level

/-- An event is a step of the counterpart that a verification objects to. -/
def ObjectsTo (reader : Identity) (v : Verification) (e : RoomEvent) : Prop :=
  ∃ step, operationOf reader v .history e = some (.receive none step) ∧ v.Objects step

variable {v : Verification} {a : Answers} {source : KeySource} {op : Operation} {o : Outcome}

/-- Our own steps are taken in silence, and our cancellation ends the verification. -/
theorem Transition.silent_of_replay {step : Step} (t : Transition a v source (.replay step) o) :
    o.effects = [] ∧ ((∃ content, step = .cancel content) → o.verification.isTerminal = true) := by
  cases t with
  | ended terminal => exact ⟨rfl, fun _ => terminal⟩
  | refused action => cases action
  | cancels running why => cases why
  | turn state machine feeds => cases feeds
  | replayedCancel => exact ⟨rfl, fun _ => enter_isTerminal _ _⟩
  | replayedReady | replayedLate | replayedDone =>
    refine ⟨rfl, ?_⟩
    rintro ⟨content, ⟨⟩⟩
  | replayedRun running run =>
    refine ⟨rfl, ?_⟩
    rintro ⟨content, rfl⟩
    cases run

theorem silent_of_replay (h : Unengaged v) (a : Answers) (step : Step) (source : KeySource) :
    (perform a (.replay step) v source).effects = [] ∧
      ((∃ content, step = .cancel content) →
        (perform a (.replay step) v source).verification.isTerminal = true) :=
  (transition_of_perform h.free (.replay step)).silent_of_replay

/-- Standing down for another device engages nobody. -/
theorem unengaged_yield (h : Unengaged v) (a : Answers) (source : KeySource) :
    Unengaged (perform a .yieldToOtherDevice v source).verification := by
  have t : Transition a (v.counted .yieldToOtherDevice) source .yieldToOtherDevice
      (perform a .yieldToOtherDevice v source) := transition_of_perform h.free _
  generalize perform a .yieldToOtherDevice v source = o at t
  cases t with
  | ended terminal => exact h
  | refused action => cases action
  | cancels running why => cases why
  | yield =>
    show Unengaged ((v.counted .yieldToOtherDevice).enter .acceptedByOtherDevice)
    exact (h.counted _).enter (by simp)
  | turn state machine feeds => cases feeds

end Verification

/-! ## One event -/

/-- An event is a cancellation of a request by our own user. -/
def OwnCancel (reader : Identity) (eventId : String) (e : RoomEvent) : Prop :=
  ∃ content, stepOf? reader.user eventId e = some (.cancel content)

/-- What was said in a run so far: nothing as long as there was nothing to object to, and one
cancellation at the end otherwise. -/
inductive Said (roomId : String) (r : Run) (objected : Prop) : Prop where
  | nothing (agreed : ¬objected) (effects : r.effects = [])
  | cancel {reason : CancelContent} {failure : Option TransportError} (objected : objected)
      (effects : r.effects = [.send (.room roomId) (.cancel reason) failure])
      (state : r.verification.state = .cancelled reason true)

/-- What holds of a run that read a part of a history, given whether it objected to something and
whether our own cancellation was there. -/
structure Reads (own : Identity) (request : Request) (roomId : String) (r : Run)
    (objected cancelled : Prop) : Prop where
  unengaged : Unengaged r.verification
  route : r.verification.route = .room roomId
  request : r.verification.request = request
  said : Said roomId r objected
  ended : cancelled → r.verification.isTerminal = true

section

variable {own : Identity} {request : Request} {roomId : String} {r : Run}
  {objected cancelled : Prop}

/-- Our own cancellation is one of our own steps: it names no device. -/
theorem operationOf_ownCancel {v : Verification} {e : RoomEvent}
    (h : OwnCancel own v.transaction.id e) :
    ∃ content, operationOf own v .history e = some (.replay (.cancel content)) := by
  obtain ⟨content, own⟩ := h
  refine ⟨content, operationOf_of_own own ?_⟩
  rintro ⟨device, ⟨⟩, -⟩

/-- What an event of the history does: it is one of our own steps, has us stand down, or is a step
of the counterpart. -/
theorem operationOf_cases {v : Verification} {e : RoomEvent} {op : Operation}
    (h : operationOf own v .history e = some op) :
    (∃ step, op = .replay step) ∨ op = .yieldToOtherDevice ∨
      ∃ step, op = .receive none step := by
  rw [operationOf_eq] at h
  split at h
  · split at h
    · exact .inr (.inl (Option.some.inj h).symm)
    · exact .inl ⟨_, (Option.some.inj h).symm⟩
  · obtain ⟨step, -, same⟩ := Option.map_eq_some_iff.1 h
    exact .inr (.inr ⟨step, same.symm⟩)

namespace Reads

/-- A step leaves the request and the room as they are, so what is left to see is what it says and
whether it ends the verification. -/
theorem step (h : Reads own request roomId r objected cancelled) {op : Operation} {a : Answers}
    {objected' cancelled' : Prop} (unengaged : Unengaged (r.step (op, a)).verification)
    (said : Said roomId (r.step (op, a)) objected')
    (ended : cancelled' → (r.step (op, a)).verification.isTerminal = true) :
    Reads own request roomId (r.step (op, a)) objected' cancelled' where
  unengaged := unengaged
  route := Verification.route_perform a op r.source h.route
  request := (Verification.sameTerms_perform a op r.verification r.source).request.trans h.request
  said := said
  ended := ended

/-- Nothing was said as long as the verification runs. -/
theorem silent (h : Reads own request roomId r objected cancelled)
    (running : r.verification.isTerminal = false) : ¬objected ∧ r.effects = [] := by
  cases h.said with
  | nothing agreed effects => exact ⟨agreed, effects⟩
  | cancel _ _ state =>
    rw [Verification.isTerminal, state] at running
    cases running

/-- Nothing is said by a verification that has ended. -/
theorem step_of_terminal (h : Reads own request roomId r objected cancelled) (op : Operation)
    (a : Answers) (terminal : r.verification.isTerminal = true) {cancelled' : Prop} :
    Reads own request roomId (r.step (op, a)) objected cancelled' := by
  obtain ⟨same, -, effects⟩ := Run.Level.step terminal (op, a)
  refine h.step (same ▸ h.unengaged) ?_ fun _ => same ▸ terminal
  cases h.said with
  | nothing agreed silent => exact .nothing agreed (effects.trans silent)
  | cancel objected said state => exact .cancel objected (effects.trans said) (same ▸ state)

/-- An event that is read as something else is no cancellation of our own. -/
theorem not_ownCancel (h : Reads own request roomId r objected cancelled) {e : RoomEvent}
    {op? : Option Operation} (means : operationOf own r.verification .history e = op?)
    (other : ∀ content, op? ≠ some (.replay (.cancel content))) :
    ¬OwnCancel own request.transaction.id e := by
  intro cancel
  have transaction : r.verification.transaction = request.transaction :=
    congrArg Request.transaction h.request
  rw [← transaction] at cancel
  obtain ⟨content, same⟩ := operationOf_ownCancel cancel
  exact other content (means.symm.trans same)

/-- An event that is read as something else is no step to object to. -/
theorem not_objectsTo {v : Verification} {e : RoomEvent} {op? : Option Operation}
    (means : operationOf own v .history e = op?)
    (other : ∀ step, op? ≠ some (.receive none step)) : ¬v.ObjectsTo own e := by
  rintro ⟨step, same, -⟩
  exact other step (means.symm.trans same)

section

variable {e : RoomEvent}

/-- What a step of the history says is what is said so far. -/
theorem effects_step (h : Reads own request roomId r objected cancelled)
    (running : r.verification.isTerminal = false) (op : Operation) (a : Answers) :
    (r.step (op, a)).effects = (Verification.perform a op r.verification r.source).effects := by
  rw [Run.step, Run.effects_extend, (h.silent running).2, List.nil_append]

/-- One of our own steps is read. -/
theorem step_own {step : Step} (h : Reads own request roomId r objected cancelled)
    (running : r.verification.isTerminal = false)
    (means : operationOf own r.verification .history e = some (.replay step)) (a : Answers) :
    Reads own request roomId (r.step (.replay step, a)) (objected ∨ r.verification.ObjectsTo own e)
      (cancelled ∨ OwnCancel own request.transaction.id e) := by
  have quiet := Verification.silent_of_replay h.unengaged a step r.source
  refine h.step (Verification.notes_perform h.unengaged a (.own step) r.source).unengaged
    (.nothing ?_ ((h.effects_step running _ a).trans quiet.1)) ?_
  · exact not_or.2 ⟨(h.silent running).1, not_objectsTo means (by simp)⟩
  · rintro (was | cancel)
    · cases running.symm.trans (h.ended was)
    · by_contra still
      refine h.not_ownCancel means (fun content same => still ?_) cancel
      cases same
      exact quiet.2 ⟨content, rfl⟩

/-- Another of our own devices is found to take part. -/
theorem step_yield (h : Reads own request roomId r objected cancelled)
    (running : r.verification.isTerminal = false)
    (means : operationOf own r.verification .history e = some .yieldToOtherDevice) (a : Answers) :
    Reads own request roomId (r.step (.yieldToOtherDevice, a))
      (objected ∨ r.verification.ObjectsTo own e)
      (cancelled ∨ OwnCancel own request.transaction.id e) := by
  refine h.step (Verification.unengaged_yield h.unengaged a r.source)
    (.nothing ?_ ((h.effects_step running _ a).trans (Verification.effects_yield a _ _))) ?_
  · exact not_or.2 ⟨(h.silent running).1, not_objectsTo means (by simp)⟩
  · rintro (was | cancel)
    · cases running.symm.trans (h.ended was)
    · exact absurd cancel (h.not_ownCancel means (by simp))

/-- A step of the counterpart is read. -/
theorem step_their {step : Step} (h : Reads own request roomId r objected cancelled)
    (running : r.verification.isTerminal = false)
    (means : operationOf own r.verification .history e = some (.receive none step)) (a : Answers) :
    Reads own request roomId (r.step (.receive none step, a))
      (objected ∨ r.verification.ObjectsTo own e)
      (cancelled ∨ OwnCancel own request.transaction.id e) := by
  have effects := h.effects_step running (.receive none step) a
  refine h.step (Verification.notes_perform h.unengaged a (.their step) r.source).unengaged ?_ ?_
  · cases Verification.answers_perform h.unengaged h.route a step r.source with
    | objected objects said state =>
      rw [h.route] at said
      exact .cancel (.inr ⟨step, means, objects⟩) (effects.trans said) state
    | silent taken quiet =>
      refine .nothing (not_or.2 ⟨(h.silent running).1, ?_⟩) (effects.trans quiet)
      rintro ⟨step', same, objects⟩
      cases means.symm.trans same
      exact taken objects
  · rintro (was | cancel)
    · cases running.symm.trans (h.ended was)
    · exact absurd cancel (h.not_ownCancel means (by simp))

end

/-- An event of the history is read. -/
theorem read (h : Reads own request roomId r objected cancelled) (past : RoomEvent × Answers) :
    Reads own request roomId (r.read own past)
      (objected ∨ r.verification.ObjectsTo own past.1)
      (cancelled ∨ OwnCancel own request.transaction.id past.1) := by
  obtain ⟨e, a⟩ := past
  cases means : operationOf own r.verification .history e with
  | none =>
    have same : r.read own (e, a) = r := by simp only [Run.read, means]
    have agreed := not_objectsTo means (by simp)
    have ours := h.not_ownCancel means (by simp)
    rw [same]
    simpa only [or_iff_left agreed, or_iff_left ours] using h
  | some op =>
    have same : r.read own (e, a) = r.step (op, a) := by simp only [Run.read, means]
    rw [same]
    cases terminal : r.verification.isTerminal with
    | true =>
      have blind : ¬r.verification.ObjectsTo own e := by
        rintro ⟨step, -, objects⟩
        cases objects.running.symm.trans terminal
      simpa only [or_iff_left blind] using h.step_of_terminal op a terminal
    | false =>
      rcases operationOf_cases means with ⟨step, rfl⟩ | rfl | ⟨step, rfl⟩
      · exact h.step_own terminal means a
      · exact h.step_yield terminal means a
      · exact h.step_their terminal means a

end Reads

end

/-! ## The whole history -/

section

variable (own : Identity) (settings : Sas.Settings) (roomId : String) (request : Request)
  (source : KeySource)

/-- An event of the history is objected to by the verification that read what comes before it. -/
def IsObjectedTo (before : List (RoomEvent × Answers)) (past : RoomEvent × Answers) : Prop :=
  (Verification.reread own settings roomId request source before).verification.ObjectsTo own past.1

theorem reads_reread (history : List (RoomEvent × Answers)) :
    Reads own request roomId (Verification.reread own settings roomId request source history)
      (∃ before past after, history = before ++ past :: after ∧
        IsObjectedTo own settings roomId request source before past)
      (∃ past ∈ history, OwnCancel own request.transaction.id past.1) := by
  induction history using List.reverseRecOn with
  | nil =>
    refine ⟨Verification.unengaged_ofRequest own settings _ request, rfl, rfl,
      .nothing ?_ rfl, ?_⟩
    · simp
    · simp
  | append_singleton history past ih =>
    have next := ih.read past
    rw [exists_split_concat]
    simp only [List.mem_append, List.mem_singleton, or_and_right, exists_or, exists_eq_left]
    rw [Verification.reread, List.foldl_append]
    exact next

/-- What is objected to comes before our cancellation. -/
theorem not_ownCancel_of_isObjectedTo {before : List (RoomEvent × Answers)}
    {past : RoomEvent × Answers}
    (objected : IsObjectedTo own settings roomId request source before past) :
    ∀ earlier ∈ before, ¬OwnCancel own request.transaction.id earlier.1 := by
  intro earlier mem cancel
  obtain ⟨step, -, objects⟩ := objected
  have ended :=
    (reads_reread own settings roomId request source before).ended ⟨earlier, mem, cancel⟩
  cases objects.running.symm.trans ended

/-- **A history with our cancellation is read again in silence, but for an objection.** A new
verification of a request reads a history in which our own user cancelled the request, and comes to
its end. It sends nothing, or a single cancellation with which it ends; and it sends nothing just
when it objects to no step of the counterpart that comes before the first cancellation of our
own. -/
theorem cancelled_history_is_silent_or_objected_to {history : List (RoomEvent × Answers)}
    (a : Answers)
    (cancelled : ∃ past ∈ history, OwnCancel own request.transaction.id past.1) :
    let r := (Verification.reread own settings roomId request source history).step
      (.finishReplay, a)
    r.verification.isTerminal = true ∧
      (r.effects = [] ∨ ∃ reason failure,
        r.effects = [.send (.room roomId) (.cancel reason) failure] ∧
          r.verification.state = .cancelled reason true) ∧
      (r.effects = [] ↔ ∀ before past after, history = before ++ past :: after →
        (∀ earlier ∈ before, ¬OwnCancel own request.transaction.id earlier.1) →
          ¬IsObjectedTo own settings roomId request source before past) := by
  intro r
  have reads := reads_reread own settings roomId request source history
  have finished : Reads own request roomId r _ True :=
    reads.step_of_terminal .finishReplay a (reads.ended cancelled)
  refine ⟨finished.ended trivial, ?_⟩
  cases finished.said with
  | nothing agreed effects =>
    refine ⟨.inl effects, fun _ before past after split _ objected => ?_, fun _ => effects⟩
    exact agreed ⟨before, past, after, split, objected⟩
  | @cancel reason failure objected effects state =>
    refine ⟨.inr ⟨reason, failure, effects, state⟩, fun silent => ?_, fun agreed => ?_⟩
    · cases effects.symm.trans silent
    · obtain ⟨before, past, after, split, objected⟩ := objected
      exact absurd objected (agreed before past after split
        (not_ownCancel_of_isObjectedTo own settings roomId request source objected))

end

/-! ## The follower of the verification -/

/-- A reading has come as far as a run that nothing was posted of. -/
structure Reading.Mirrors (s : Reading) (r : Run) : Prop where
  verification : s.verification = r.verification
  keys : s.keys = r.source
  outbox : s.outbox = Reading.deliveries r.effects

/-- The entries that a follower has not read yet are events of its room that it did not take, each
with an id of its own. -/
structure Follower.Faces (f : Follower) (t : Timelines) (entries : List Entry)
    (events : List RoomEvent) : Prop where
  phase : f.phase = .replaying entries
  resolved : entries.map t.resolve = events.map .event
  room : ∀ e ∈ events, e.roomId = f.roomId
  distinct : (events.map (·.eventId)).Nodup
  untaken : ∀ e ∈ events, e.eventId ∉ f.seen

namespace Follower.Faces

variable {f : Follower} {t : Timelines} {v : Verification} {entry : Entry} {rest : List Entry}
  {e : RoomEvent} {events : List RoomEvent}

/-- The follower leaves the history where nothing is left of it, and where its verification has
ended. -/
theorem move?_of_left {entries : List Entry} (h : f.Faces t entries events)
    (left : events = [] ∨ v.isTerminal = true) : f.move? t v = some f.leaveHistory := by
  unfold Follower.move?
  rw [h.phase]
  cases entries with
  | nil => rfl
  | cons entry rest =>
    rcases left with rfl | ended
    · cases h.resolved
    · exact if_pos ended

/-- The follower takes the next event. -/
theorem move?_of_running (h : f.Faces t (entry :: rest) (e :: events))
    (running : v.isTerminal = false) :
    f.move? t v = some (.go { f with phase := .replaying rest, seen := e.eventId :: f.seen }
      (operationOf f.reader v .history e)) := by
  have takes : e.roomId = f.roomId ∧ e.eventId ∉ f.seen :=
    ⟨h.room e List.mem_cons_self, h.untaken e List.mem_cons_self⟩
  have resolved : t.resolve entry = .event e := (List.cons.inj h.resolved).1
  unfold Follower.move?
  rw [h.phase]
  simp [running, resolved, Follower.take, takes]

theorem tail (h : f.Faces t (entry :: rest) (e :: events)) :
    Follower.Faces { f with phase := .replaying rest, seen := e.eventId :: f.seen } t rest
      events where
  phase := rfl
  resolved := (List.cons.inj h.resolved).2
  room e' mem := h.room e' (List.mem_cons_of_mem _ mem)
  distinct := (List.nodup_cons.1 h.distinct).2
  untaken e' mem := by
    have other : e'.eventId ≠ e.eventId := fun same =>
      (List.nodup_cons.1 h.distinct).1 (List.mem_map.2 ⟨e', mem, same⟩)
    exact List.not_mem_cons_of_ne_of_not_mem other (h.untaken e' (List.mem_cons_of_mem _ mem))

end Follower.Faces

namespace Reading

variable {s : Reading} {r : Run} {a : Answers} {op : Operation}

namespace Mirrors

theorem perform (h : s.Mirrors r) (a : Answers) (op : Operation) :
    (s.perform a op).Mirrors (r.step (op, a)) := by
  have same : s.verification.perform a op s.keys = r.verification.perform a op r.source := by
    rw [h.verification, h.keys]
  refine ⟨congrArg Verification.Outcome.verification same,
    congrArg Verification.Outcome.source same, ?_⟩
  show s.outbox ++ deliveries (s.verification.perform a op s.keys).effects = _
  rw [same, h.outbox, Run.step, Run.effects_extend]
  exact List.filterMap_append.symm

theorem congr {r' : Run} (h : s.Mirrors r) (level : r.Level r') : s.Mirrors r' where
  verification := h.verification.trans level.verification.symm
  keys := h.keys.trans level.source.symm
  outbox := h.outbox.trans (congrArg deliveries level.effects.symm)

/-- The follower leaves the history. -/
theorem leaves (h : s.Mirrors r) (attending : s.stage = .attending)
    (move : s.follower.move? s.timelines s.verification = some s.follower.leaveHistory)
    (a : Answers) :
    s.Leads [.read a] (s.read a) ∧ (s.read a).follower.phase = .following ∧
      (s.read a).Mirrors (r.step (.finishReplay, a)) := by
  refine ⟨⟨⟨attending, trivial⟩, rfl⟩, ?_⟩
  rw [read_go a move]
  have further : (s.advance a { s.follower with phase := .following }).Mirrors r :=
    ⟨h.verification, h.keys, h.outbox⟩
  exact ⟨rfl, further.perform a .finishReplay⟩

/-- The follower takes an event of the history, and goes on listening. -/
theorem takes {own : Identity} {request : Request} {roomId : String} {objected cancelled : Prop}
    {next : Follower} {e : RoomEvent} (h : s.Mirrors r) (attending : s.stage = .attending)
    (reads : Reads own request roomId r objected cancelled)
    (move : s.follower.move? s.timelines s.verification =
      some (.go next (operationOf own s.verification .history e)))
    (a : Answers) :
    (s.read a).stage = .attending ∧ (s.read a).follower = next ∧
      (s.read a).timelines = s.timelines ∧ (s.read a).Mirrors (r.read own (e, a)) := by
  have further : (s.advance a next).Mirrors r := ⟨h.verification, h.keys, h.outbox⟩
  have free := (reads.read (e, a)).unengaged.free
  rw [read_go a move]
  unfold Run.read at free ⊢
  rw [h.verification] at move ⊢
  cases means : operationOf own r.verification .history e with
  | none =>
    exact ⟨attending, rfl, rfl, further⟩
  | some op =>
    rw [means] at free
    have goes := further.perform a op
    have foreign : op.isLocal = false := by
      rcases operationOf_cases means with ⟨step, rfl⟩ | rfl | ⟨step, rfl⟩ <;> rfl
    refine ⟨?_, rfl, rfl, goes⟩
    rw [performs_some, perform_stage a foreign, if_neg]
    · exact attending
    · intro waiting
      have held : ((s.advance a next).perform a op).verification.held = true :=
        Verification.held_of_waiting foreign waiting
      rw [goes.verification] at held
      cases free.symm.trans held

end Mirrors

/-- A follower that faces the rest of a history brings its verification to where the run that reads
the rest and finishes the replay comes. A verification that ends in between reads no further, which
makes no difference. -/
theorem replays {own : Identity} {request : Request} {roomId : String} {objected cancelled : Prop}
    {entries : List Entry} {history : List (RoomEvent × Answers)} (h : s.Mirrors r)
    (attending : s.stage = .attending) (reader : s.follower.reader = own)
    (reads : Reads own request roomId r objected cancelled)
    (faces : s.follower.Faces s.timelines entries (history.map (·.1))) (a : Answers) :
    ∃ answers s', answers <+: history.map (·.2) ++ [a] ∧ s.Leads (answers.map .read) s' ∧
      s'.follower.phase = .following ∧
      s'.Mirrors ((history.foldl (Run.read own) r).step (.finishReplay, a)) := by
  induction history generalizing s r entries objected cancelled with
  | nil =>
    obtain ⟨leads, phase, mirrors⟩ := h.leaves attending (faces.move?_of_left (.inl rfl)) a
    exact ⟨[a], _, List.prefix_rfl, leads, phase, mirrors⟩
  | cons past history ih =>
    obtain ⟨e, b⟩ := past
    cases ended : r.verification.isTerminal with
    | true =>
      -- Nothing changes any more, whatever is read.
      have left : s.verification.isTerminal = true := h.verification ▸ ended
      obtain ⟨leads, phase, mirrors⟩ := h.leaves attending (faces.move?_of_left (.inr left)) b
      have all := Run.Level.reads ended own ((e, b) :: history)
      have last := all.trans (.step (all.verification ▸ ended) (.finishReplay, a))
      exact ⟨[b], _, List.cons_prefix_cons.2 ⟨rfl, List.nil_prefix⟩, leads, phase,
        mirrors.congr ((Run.Level.step ended _).symm.trans last)⟩
    | false =>
      obtain ⟨entry, rest, rfl⟩ : ∃ entry rest, entries = entry :: rest := by
        cases entries with
        | nil => cases faces.resolved
        | cons entry rest => exact ⟨_, _, rfl⟩
      obtain rfl := reader
      have running : s.verification.isTerminal = false := h.verification ▸ ended
      have move := faces.move?_of_running running
      obtain ⟨attending', follower, timelines, mirrors⟩ := h.takes attending reads move b
      have faces' := faces.tail
      rw [← follower, ← timelines] at faces'
      obtain ⟨answers, s', whole, leads, phase, mirrors'⟩ := ih mirrors attending'
        (by rw [follower]) (reads.read (e, b)) faces'
      exact ⟨b :: answers, s', List.cons_prefix_cons.2 ⟨rfl, whole⟩, leads.cons attending, phase,
        mirrors'⟩

/-- **What is read again is what a follower reads.** A follower listens to a room for a new
verification, and the history of the room from the request on is made of decrypted events with ids
of their own. The follower reads them and leaves the history, and then its verification, the key
pairs this can still draw and what it sent are those of `reread` at the end of the replay. -/
theorem attend_rereads (settings : Sas.Settings) (request : Request) (source : KeySource)
    {f : Follower} {t : Timelines} {entries : List Entry} {history : List (RoomEvent × Answers)}
    (opening : f.phase = .opening) (fresh : f.seen = [])
    (found : t.readFrom f.roomId request.transaction.id = .ok entries)
    (resolved : entries.map t.resolve = (history.map (·.1)).map .event)
    (room : ∀ e ∈ history.map (·.1), e.roomId = f.roomId)
    (distinct : ((history.map (·.1)).map (·.eventId)).Nodup) (first last : Answers) :
    ∃ answers s, answers <+: first :: (history.map (·.2) ++ [last]) ∧
      (attend (.ofRequest f.reader settings (.room f.roomId) request) source f t).Leads
        (answers.map .read) s ∧
      s.follower.phase = .following ∧
      s.Mirrors ((Verification.reread f.reader settings f.roomId request source history).step
        (.finishReplay, last)) := by
  let v := Verification.ofRequest f.reader settings (.room f.roomId) request
  let s₀ := attend v source f t
  have move : s₀.follower.move? s₀.timelines s₀.verification =
      some (.go { f with phase := .replaying entries } none) := by
    have found : t.readFrom f.roomId v.transaction.id = .ok entries := found
    show f.move? t v = _
    simp only [Follower.move?, opening, found]
  have opens := read_go first move
  have mirrors : (s₀.read first).Mirrors (.begin v source) := by
    rw [opens]
    exact ⟨rfl, rfl, rfl⟩
  have faces : (s₀.read first).follower.Faces (s₀.read first).timelines entries
      (history.map (·.1)) := by
    rw [opens]
    exact ⟨rfl, resolved, room, distinct, fun e _ => by simp [advance, fresh]⟩
  obtain ⟨answers, s, whole, leads, phase, mirrors⟩ := replays mirrors (by rw [opens]; rfl)
    (by rw [opens]; rfl) (reads_reread f.reader settings f.roomId request source []) faces last
  exact ⟨first :: answers, s, List.cons_prefix_cons.2 ⟨rfl, whole⟩, leads.cons rfl, phase, mirrors⟩

end Reading

/-! ### Bob reads what he cancelled -/

section

open Sas (sampleContext)
open Verification (sampleAnswers sampleRoomRequest)

/-- A step for Alice's request. -/
def sampleEntry (eventId sender : String) (step : Step) : RoomEvent × Answers :=
  (⟨"!r", eventId, sender, 0, some (.step "$a" step)⟩, sampleAnswers)

/-- Alice starts. -/
def sampleStartEntry : RoomEvent × Answers :=
  sampleEntry "$2" "@alice:x" (.start (Sas.Settings.default.startContent "ALICE"))

/-- Bob was ready, and cancelled when Alice started. -/
def sampleCancelledHistory : List (RoomEvent × Answers) :=
  [sampleEntry "$1" "@bob:x" (.ready ⟨"BOB", [.sas]⟩), sampleStartEntry,
    sampleEntry "$3" "@bob:x" (.cancel ⟨.user, "user cancelled"⟩)]

/-- Bob has nothing against Alice's start, so he is silent. -/
theorem cancelled_history_is_silent_or_objected_to_sample :
    (Verification.reread sampleContext.own .default "!r" sampleRoomRequest ⟨[]⟩
        sampleCancelledHistory).verification.isTerminal = true ∧
      ¬IsObjectedTo sampleContext.own .default "!r" sampleRoomRequest ⟨[]⟩
        (sampleCancelledHistory.take 1) sampleStartEntry := by
  have cancelled : ∃ past ∈ sampleCancelledHistory,
      OwnCancel sampleContext.own sampleRoomRequest.transaction.id past.1 :=
    ⟨_, List.mem_of_getElem? (i := 2) rfl, ⟨.user, "user cancelled"⟩, by decide +kernel⟩
  obtain ⟨-, -, silent⟩ := cancelled_history_is_silent_or_objected_to sampleContext.own .default
    "!r" sampleRoomRequest ⟨[]⟩ sampleAnswers cancelled
  refine ⟨by decide +kernel, silent.1 (by decide +kernel) _ _ (sampleCancelledHistory.drop 2) rfl
    ?_⟩
  rintro earlier mem ⟨content, cancel⟩
  obtain rfl := List.mem_singleton.1 mem
  cases cancel

/-- Bob got a key from Alice that he did not expect, and cancelled. When he reads that again he
cancels again. -/
theorem objection_is_repeated :
    ∃ history : List (RoomEvent × Answers),
      (∃ past ∈ history, OwnCancel sampleContext.own sampleRoomRequest.transaction.id past.1) ∧
        ((Verification.reread sampleContext.own .default "!r" sampleRoomRequest ⟨[]⟩ history).step
          (.finishReplay, sampleAnswers)).effects =
            [.send (.room "!r")
              (.cancel ⟨.unexpectedMessage, "unexpected key in state their_request"⟩) none] := by
  refine ⟨[sampleEntry "$1" "@alice:x" (.key ⟨"AAAA"⟩), sampleEntry "$2" "@bob:x"
    (.cancel ⟨.unexpectedMessage, "unexpected key in state their_request"⟩)], ?_, ?_⟩
  · exact ⟨_, List.mem_of_getElem? (i := 1) rfl,
      ⟨.unexpectedMessage, "unexpected key in state their_request"⟩, by decide +kernel⟩
  · decide +kernel

end

end DeviceVerification
