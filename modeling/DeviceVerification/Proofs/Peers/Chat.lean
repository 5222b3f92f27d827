import DeviceVerification.Proofs.Peers.Meeting
import DeviceVerification.Proofs.Sas.Negotiation
import DeviceVerification.Proofs.Service.Meaning
import DeviceVerification.Proofs.Service.Reading
import DeviceVerification.Proofs.Verification.Terms

/-!
# Two users in a room

In a `Chat` two devices verify each other through the events of a room. What a side hands over
becomes an event some time later, and each side takes the events in their order, at its own pace, so
steps of the two may cross. All that either side says is in terms of its settings (`Frank`), and the
order of the room is the order of the conversation: every step comes after what it answers
(`causal_run`).

The steps of a side become events in their order and without gaps. A step whose sending failed is
one that never becomes an event, and it keeps all later steps of its side out of the room: that a
ready step is lost and what follows it arrives is not among these chats.
-/

namespace DeviceVerification.Peers

open Verification Verification.Progress

/-! ## What the sides say -/

namespace Meeting

variable (m : Meeting)

/-- The methods of the request that can be run. -/
def offered : List Method := commonMethods m.methods supportedMethods

/-- The two sides have algorithms in common. -/
def Compatible : Prop := ∀ role, (m.settings role).negotiate
  ((m.settings role.other).startContent (m.identity role.other).device) ≠ none

/-- A step is in the terms of the side that says it. -/
def Says (role : Role) : Step → Prop
  | .ready content => content.methods = m.offered ∧ m.offered ≠ []
  | .start content => content = (m.settings role).startContent (m.identity role).device
  | .accept _ => m.Compatible
  | _ => True

/-- What holds of what a side says, and of what it has to answer. -/
structure Frank (role : Role) (p : Party) : Prop where
  terms : SameTerms (m.begin role).verification p.verification
  settings : p.verification.settings = m.settings role
  asked : p.verification.state = .theirRequest → p.verification.methods = m.offered
  answers : ∀ k, p.verification.machine = some k → k.state = .theirStart → m.Compatible
  told : ∀ step ∈ p.sent, m.Says role step
  last : ∀ content, .cancel content ∈ p.sent → p.verification.state = .cancelled content true

variable {m} {role : Role} {p : Party}

/-- It is enough that one side can agree with the other. -/
theorem compatible_of (agrees : (m.settings role).negotiate
    ((m.settings role.other).startContent (m.identity role.other).device) ≠ none) :
    m.Compatible := by
  refine Role.forall_of role agrees ?_
  rw [Role.other_other]
  exact mt (Sas.Settings.negotiate_eq_none_comm _ _ _ _).1 agrees

theorem frank_begin (m : Meeting) (role : Role) : m.Frank role (m.begin role) where
  terms := .refl _
  settings := rfl
  asked _ := rfl
  answers k machine := by cases machine
  told step mem := by cases mem
  last content mem := by cases mem

/-- A side stays frank, whatever it does and hears. -/
theorem Frank.perform (h : m.Frank role p) (op : Operation) (a : Answers) {taken : Nat}
    (heard : ∀ sender content, op = .receive sender (.start content) →
      m.Says role.other (.start content)) :
    m.Frank role { p.perform op a with taken := taken } where
  terms := h.terms.trans (sameTerms_perform a op _ _)
  settings := (offers_perform a op p.verification p.run.source).settings.trans h.settings
  asked state := by
    have before : p.verification.state = .theirRequest :=
      ((speaks_perform a op p.verification p.run.source).state_eq
        ((congrArg State.isRequestPhase state).trans rfl)).trans state
    rcases (offers_perform a op p.verification p.run.source).methods with
      same | ⟨_, _, -, own, -⟩
    · exact same.trans (h.asked before)
    · cases before.symm.trans own
  answers k machine state := by
    cases waitsFor_perform a p.run.source machine state with
    | before machine state => exact h.answers _ machine state
    | started same agrees =>
      obtain rfl := heard _ _ same
      exact compatible_of (h.settings ▸ agrees)
  told step mem := by
    rcases List.mem_append.1 (sent_perform p op a ▸ mem) with old | new
    · exact h.told step old
    · cases utters_perform a p.run.source new with
      | ready asked some =>
        have offer := h.asked asked
        exact ⟨offer, offer ▸ some⟩
      | start =>
        exact congrArg₂ Sas.Settings.startContent h.settings
          (congrArg Identity.device h.terms.own)
      | accept machine state => exact h.answers _ machine state
      | key | mac | done | cancel => trivial
  last content mem := by
    rcases List.mem_append.1 (sent_perform p op a ▸ mem) with old | new
    · have ended := h.last content old
      obtain ⟨reply, still⟩ := perform_of_terminal (v := p.verification)
        (by rw [isTerminal, ended]; rfl) a op p.run.source
      show (Verification.perform a op p.verification p.run.source).verification.state = _
      rw [still]
      exact ended
    · cases utters_perform a p.run.source new with
      | cancel state => exact state

end Meeting

/-! ## Chats -/

/-- A meeting of two users in a room. -/
structure Chat extends Meeting where
  roomId : String
  inRoom : ∀ role, route role = .room roomId
  foreign : (identity .requester).user ≠ (identity .responder).user

/-- The sides of a chat, the events of its room, and how many of these each side has seen. -/
structure Talk where
  sides : Role → Party
  events : List RoomEvent
  seen : Role → Nat

/-- The steps of a side, out of the steps of both. -/
def saidBy (role : Role) (log : List (Role × Step)) : List Step :=
  log.filterMap fun e => if e.1 = role then some e.2 else none

theorem mem_saidBy {role : Role} {log : List (Role × Step)} {step : Step} :
    step ∈ saidBy role log ↔ (role, step) ∈ log := by
  simp [saidBy]

/-- A side sees an event, which is a step for it or nothing. -/
def Party.see (p : Party) (reader : Identity) (e : RoomEvent) (a : Answers) : Party :=
  match operationOf reader p.verification .live e with
  | none => p
  | some op => { p.perform op a with taken := p.taken + 1 }

namespace Chat

/-- What happens in a chat. -/
inductive Happening where
  /-- The user of a side does something. -/
  | act (role : Role) (wish : Wish) (a : Answers)
  /-- The oldest step of a side that is no event yet becomes one. It may never do so, as when its
  sending failed, and then no later step of the side does. -/
  | post (role : Role) (eventId : String) (timestamp : UInt64)
  /-- A side sees the next event. -/
  | see (role : Role) (a : Answers)
  /-- Something else gets into the room. -/
  | other (e : RoomEvent)

variable (c : Chat)

/-- The step that an event is, and of which side. -/
def entry? (e : RoomEvent) : Option (Role × Step) :=
  match stepOf? (c.identity .requester).user c.transaction.id e with
  | some step => some (.requester, step)
  | none => (stepOf? (c.identity .responder).user c.transaction.id e).map (.responder, ·)

/-- The steps in a room, in their order. -/
def log (events : List RoomEvent) : List (Role × Step) := events.filterMap c.entry?

/-- A chat before anything happened. -/
def begin : Talk := ⟨c.toMeeting.begin, [], fun _ => 0⟩

/-- The chat after something happened. -/
def after (t : Talk) : Happening → Talk
  | .act role wish a =>
    { t with sides := Function.update t.sides role ((t.sides role).perform wish.operation a) }
  | .post role eventId timestamp =>
    match (t.sides role).sent[(saidBy role (c.log t.events)).length]? with
    | none => t
    | some step =>
      { t with events := t.events ++
          [Reading.eventOf (t.sides role).verification c.roomId eventId timestamp step] }
  | .see role a =>
    match t.events[t.seen role]? with
    | none => t
    | some e =>
      { t with
        sides := Function.update t.sides role ((t.sides role).see (c.identity role) e a)
        seen := Function.update t.seen role (t.seen role + 1) }
  | .other e => { t with events := t.events ++ [e] }

/-- What can happen: nobody else makes steps of the two sides. -/
def Allows : Happening → Prop
  | .other e => c.entry? e = none
  | _ => True

/-- The chat after several things happened. -/
def run (l : List Happening) : Talk := l.foldl c.after c.begin

variable {c} {t : Talk} {role : Role} {e : RoomEvent} {step : Step} {log : List (Role × Step)}
  {v : Verification} {source : EventSource}

/-- What everything that can happen keeps holds after all of it. -/
theorem run_induction {P : Talk → Prop} (start : P c.begin)
    (step : ∀ t x, P t → c.Allows x → P (c.after t x)) {l : List Happening}
    (allowed : ∀ x ∈ l, c.Allows x) : P (c.run l) := by
  unfold run
  generalize c.begin = t at start
  induction l generalizing t with
  | nil => exact start
  | cons x rest ih =>
    refine ih (fun y mem => allowed y (List.mem_cons_of_mem x mem)) (c.after t x) ?_
    exact step t x start (allowed x List.mem_cons_self)

/-! ### What an event means to a side -/

/-- An event is the step of no more than one side. -/
theorem stepOf?_other (said : stepOf? (c.identity role).user c.transaction.id e = some step) :
    stepOf? (c.identity role.other).user c.transaction.id e = none := by
  cases again : stepOf? (c.identity role.other).user c.transaction.id e with
  | none => rfl
  | some step' =>
    have same := (stepOf?_eq_some_iff.1 said).2.symm.trans (stepOf?_eq_some_iff.1 again).2
    cases role with
    | requester => exact absurd same c.foreign
    | responder => exact absurd same.symm c.foreign

theorem entry?_eq_some_iff : c.entry? e = some (role, step) ↔
    stepOf? (c.identity role).user c.transaction.id e = some step := by
  unfold entry?
  cases asked : stepOf? (c.identity .requester).user c.transaction.id e with
  | some step' =>
    have other := stepOf?_other asked
    cases role with
    | requester => simp [asked]
    | responder =>
      simp [show stepOf? (c.identity .responder).user c.transaction.id e = none from other]
  | none =>
    cases role with
    | requester => simp [asked]
    | responder => simp

/-- What a side that keeps to its terms writes into the room is its step. -/
theorem entry?_eventOf (terms : SameTerms (c.toMeeting.begin role).verification v)
    (eventId : String) (timestamp : UInt64) (step : Step) :
    c.entry? (Reading.eventOf v c.roomId eventId timestamp step) = some (role, step) := by
  refine entry?_eq_some_iff.2 (stepOf?_eq_some_iff.2 ⟨?_, ?_⟩)
  · exact congrArg (fun tx => some (ConversationMessage.step (Transaction.id tx) step))
      terms.transaction
  · exact congrArg Identity.user terms.own

/-- To a side that keeps to its terms, an event that is no step is nothing. -/
theorem operationOf_of_none (terms : SameTerms (c.toMeeting.begin role).verification v)
    (none : c.entry? e = none) : operationOf (c.identity role) v source e = .none := by
  have silent : ∀ r, stepOf? (c.identity r).user c.transaction.id e = .none := by
    intro r
    cases said : stepOf? (c.identity r).user c.transaction.id e with
    | none => rfl
    | some step => cases none.symm.trans (entry?_eq_some_iff.2 said)
  have transaction : v.transaction = c.transaction := terms.transaction
  have theirs : v.theirUser = (c.identity role.other).user := terms.theirUser
  rw [operationOf_of_foreign (transaction ▸ silent role), theirs, transaction, silent]
  rfl

/-- A step of its own is restored from a history, and is an echo afterwards. -/
theorem operationOf_of_own (terms : SameTerms (c.toMeeting.begin role).verification v)
    (own : c.entry? e = some (role, step)) (honest : Honest (c.identity role) step) :
    operationOf (c.identity role) v source e =
      match source with
      | .history => some (.replay step)
      | .live => none := by
  have transaction : v.transaction = c.transaction := terms.transaction
  exact DeviceVerification.operationOf_of_own (transaction ▸ entry?_eq_some_iff.1 own)
    (not_namesOther_iff.2 honest.device)

/-- A step of the other side is received. -/
theorem operationOf_of_theirs (terms : SameTerms (c.toMeeting.begin role).verification v)
    (theirs : c.entry? e = some (role.other, step)) :
    operationOf (c.identity role) v source e = some (.receive none step) := by
  have transaction : v.transaction = c.transaction := terms.transaction
  have user : v.theirUser = (c.identity role.other).user := terms.theirUser
  have said := entry?_eq_some_iff.1 theirs
  have foreign := stepOf?_other said
  rw [Role.other_other] at foreign
  rw [operationOf_of_foreign (transaction ▸ foreign), user, transaction, said]
  rfl

/-! ## The order of the room -/

/-- A side said something in a run. -/
def Ran (role : Role) (log : List (Role × Step)) : Prop :=
  ∃ s, (role, s) ∈ log ∧ isRunStep s = true

theorem Ran.append {log : List (Role × Step)} (h : Ran role log) (more : List (Role × Step)) :
    Ran role (log ++ more) := by
  obtain ⟨s, mem, run⟩ := h
  exact ⟨s, List.mem_append_left more mem, run⟩

/-- What is in a log before a step of a side, other than a cancellation. -/
inductive Timely (c : Chat) (log : List (Role × Step)) : Role → Step → Prop where
  | ready {content : ReadyContent} (first : ∀ e ∈ log, e.2.kind = .cancel)
      (offer : c.Says .responder (.ready content)) : Timely c log .responder (.ready content)
  | start {role : Role} {content : StartContent}
      (answered : ∃ content, (Role.responder, .ready content) ∈ log ∧
        c.Says .responder (.ready content))
      (first : ∀ content, (role, .start content) ∉ log) (offer : c.Says role (.start content)) :
      Timely c log role (.start content)
  | answer {role : Role} {step : Step}
      (kind : step.kind ∈ [StepKind.accept, .key, .mac, .done])
      (heard : Ran role.other log) : Timely c log role step
  | cancel (role : Role) (content : CancelContent) : Timely c log role (.cancel content)

/-- Every step of a log comes after what it answers. -/
inductive Causal (c : Chat) : List (Role × Step) → Prop where
  | nil : Causal c []
  | concat {log : List (Role × Step)} {role : Role} {step : Step} (before : Causal c log)
      (honest : Honest (c.identity role) step) (timely : Timely c log role step) :
      Causal c (log ++ [(role, step)])

/-- What a side has said before a step and heard, so that it can say the step. -/
def Due (role : Role) (said heard : List StepKind) : StepKind → Prop
  | .ready => role = .responder ∧ said = []
  | .start => .start ∉ said ∧ .ready ∈ (if role = .responder then said else heard)
  | .cancel => False
  | _ => ∃ kind ∈ heard, kind ∈ [StepKind.start, .accept, .key, .mac]

instance (role : Role) (said heard : List StepKind) (kind : StepKind) :
    Decidable (Due role said heard kind) := by
  unfold Due
  cases kind <;> infer_instance

theorem due_table : ∀ role ∈ [Role.requester, .responder], ∀ s ∈ Stage.all,
    ∀ kind ∈ StepKind.all, ∀ said ∈ (s.sent role).inits, said ++ [kind] <+: s.sent role →
      Due role said (s.taken role) kind := by
  decide +kernel

/-- At every stage, what a side says is due. -/
theorem due_of_next {s : Stage} {said told : List StepKind} {kind : StepKind}
    (told_eq : told = s.sent role ∨ told = s.sent role ++ [.cancel])
    (next : said ++ [kind] <+: told) : kind = .cancel ∨ Due role said (s.taken role) kind := by
  have due (next : said ++ [kind] <+: s.sent role) : Due role said (s.taken role) kind := by
    refine due_table role ?_ s (Stage.mem_all s) kind ?_ said ?_ next
    · cases role <;> decide
    · cases kind <;> decide
    · exact (List.mem_inits _ _).2 ((List.prefix_append said [kind]).trans next)
  rcases told_eq with rfl | rfl
  · exact .inr (due next)
  · rcases List.prefix_concat_iff.1 next with same | next
    · exact .inl (List.singleton_inj.1 (List.append_inj_right' same rfl))
    · exact .inr (due next)

/-- A requester that has heard nothing has said nothing. -/
theorem sent_eq_nil_of_taken {s : Stage} (unheard : s.taken .requester = []) :
    s.sent .requester = [] := by
  have table : ∀ s ∈ Stage.all, s.taken .requester = [] → s.sent .requester = [] := by
    decide +kernel
  exact table s (Stage.mem_all s) unheard

/-! ## What holds all along -/

/-- What holds in a chat: what a side said is in the room up to some step, and what it has seen of
the other side is what it took. -/
structure Tracks (c : Chat) (t : Talk) : Prop where
  harmony : c.Harmony t.sides
  frank : ∀ role, c.Frank role (t.sides role)
  posted : ∀ role, saidBy role (c.log t.events) <+: (t.sides role).sent
  within : ∀ role, t.seen role ≤ t.events.length
  taken : ∀ role, saidBy role.other (c.log (t.events.take (t.seen role))) =
    (t.sides role.other).sent.take (t.sides role).taken
  causal : c.Causal (c.log t.events)

theorem log_concat (c : Chat) (events : List RoomEvent) (e : RoomEvent) :
    c.log (events ++ [e]) = c.log events ++ (c.entry? e).toList := by
  unfold log
  rw [List.filterMap_append]
  cases entry : c.entry? e <;> simp [entry]

theorem saidBy_append (role : Role) (log log' : List (Role × Step)) :
    saidBy role (log ++ log') = saidBy role log ++ saidBy role log' :=
  List.filterMap_append

theorem saidBy_self (role : Role) (step : Step) : saidBy role [(role, step)] = [step] := by
  simp [saidBy]

theorem saidBy_other (role : Role) (step : Step) : saidBy role.other [(role, step)] = [] := by
  simp [saidBy, role.other_ne.symm]

/-- A prefix of the room has a prefix of what a side says. -/
theorem prefix_saidBy (role : Role) {events events' : List RoomEvent} (h : events <+: events') :
    saidBy role (c.log events) <+: saidBy role (c.log events') :=
  (h.filterMap _).filterMap _

theorem tracks_begin (c : Chat) : c.Tracks c.begin where
  harmony := Meeting.harmony_begin c.toMeeting
  frank := Meeting.frank_begin c.toMeeting
  posted _ := List.nil_prefix
  within _ := Nat.le_refl _
  taken _ := List.take_nil.symm
  causal := .nil

namespace Tracks

/-- A side goes on, and may have seen more of the room. -/
theorem advance (h : c.Tracks t) (role : Role) {p : Party} {seen : Nat}
    (harmony : c.Harmony (Function.update t.sides role p)) (frank : c.Frank role p)
    (grows : (t.sides role).sent <+: p.sent) (within : seen ≤ t.events.length)
    (taken : saidBy role.other (c.log (t.events.take seen)) =
      (t.sides role.other).sent.take p.taken) :
    c.Tracks ⟨Function.update t.sides role p, t.events, Function.update t.seen role seen⟩ := by
  generalize sides : Function.update t.sides role p = w at harmony ⊢
  generalize counts : Function.update t.seen role seen = n
  have here : w role = p := by rw [← sides, Function.update_self]
  have there : w role.other = t.sides role.other := by
    rw [← sides, Function.update_of_ne role.other_ne]
  have countHere : n role = seen := by rw [← counts, Function.update_self]
  have countThere : n role.other = t.seen role.other := by
    rw [← counts, Function.update_of_ne role.other_ne]
  have before := h.taken role.other
  have bound := h.harmony.within role.other
  rw [Role.other_other] at before bound
  refine ⟨harmony, Role.forall_of role ?_ ?_, Role.forall_of role ?_ ?_, Role.forall_of role ?_ ?_,
    Role.forall_of role ?_ ?_, h.causal⟩
  · simpa only [here] using frank
  · simpa only [there] using h.frank role.other
  · simpa only [here] using (h.posted role).trans grows
  · simpa only [there] using h.posted role.other
  · simpa only [countHere] using within
  · simpa only [countThere] using h.within role.other
  · simpa only [countHere, here, there] using taken
  · obtain ⟨more, grown⟩ := grows
    simp only [Role.other_other, countThere, here, there, before]
    rw [← grown, List.take_append_of_le_length bound]

/-- The room gets an event. -/
theorem append (h : c.Tracks t) (e : RoomEvent)
    (posted : ∀ role, saidBy role (c.log (t.events ++ [e])) <+: (t.sides role).sent)
    (causal : c.Causal (c.log (t.events ++ [e]))) :
    c.Tracks { t with events := t.events ++ [e] } where
  harmony := h.harmony
  frank := h.frank
  posted := posted
  within role := by
    rw [List.length_append]
    exact Nat.le_add_right_of_le (h.within role)
  taken role := by
    rw [List.take_append_of_le_length (h.within role)]
    exact h.taken role
  causal := causal

/-- The stage at which a side stands: what it heard so far is in the room. -/
theorem stage (h : c.Tracks t) (role : Role) : ∃ s : Stage,
    ((t.sides role).sent.map (·.kind) = s.sent role ∨
      (t.sides role).sent.map (·.kind) = s.sent role ++ [.cancel]) ∧
    ∀ kind ∈ s.taken role, ∃ step, (role.other, step) ∈ c.log t.events ∧ step.kind = kind := by
  have inRoom : ∀ kind ∈ ((t.sides role.other).sent.take (t.sides role).taken).map (·.kind),
      ∃ step, (role.other, step) ∈ c.log t.events ∧ step.kind = kind := by
    intro kind mem
    obtain ⟨step, said, rfl⟩ := List.mem_map.1 mem
    rw [← h.taken role] at said
    exact ⟨step, mem_saidBy.1 ((prefix_saidBy _ (List.take_prefix _ _)).subset said), rfl⟩
  obtain ⟨s, going | stopped⟩ := h.harmony.stands role
  · exact ⟨s, .inl going.sent, fun kind mem => inRoom kind (going.taken ▸ mem)⟩
  · exact ⟨s, stopped.sent, fun kind mem => inRoom kind (stopped.taken.subset mem)⟩

/-- What is in the room was said. -/
theorem said (h : c.Tracks t) (mem : (role, step) ∈ c.log t.events) :
    step ∈ (t.sides role).sent :=
  (h.posted role).subset (mem_saidBy.2 mem)

/-- As long as the responder is silent, the requester has nothing to answer, so nothing but a
cancellation is in the room. -/
theorem cancel_of_silent (h : c.Tracks t) (silent : saidBy .responder (c.log t.events) = []) :
    ∀ e ∈ c.log t.events, e.2.kind = .cancel := by
  have unsaid {step : Step} : (.responder, step) ∉ c.log t.events := by
    intro mem
    cases silent ▸ mem_saidBy.2 mem
  obtain ⟨s, told, heard⟩ := h.stage .requester
  have unheard : s.taken .requester = [] := by
    refine List.eq_nil_iff_forall_not_mem.2 fun kind mem => ?_
    obtain ⟨step, mem, -⟩ := heard kind mem
    exact unsaid mem
  rw [sent_eq_nil_of_taken unheard] at told
  rintro ⟨role, step⟩ mem
  cases role with
  | responder => exact absurd mem unsaid
  | requester =>
    have kind : step.kind ∈ (t.sides .requester).sent.map (·.kind) :=
      List.mem_map_of_mem (h.said mem)
    rcases told with told | told
    · rw [told] at kind
      cases kind
    · rw [told] at kind
      exact List.mem_singleton.1 kind

/-- A ready in the room is in the responder's terms. -/
theorem exists_ready (h : c.Tracks t)
    (found : ∃ step, (Role.responder, step) ∈ c.log t.events ∧ step.kind = .ready) :
    ∃ content, (Role.responder, .ready content) ∈ c.log t.events ∧
      c.Says .responder (.ready content) := by
  obtain ⟨step, mem, kind⟩ := found
  cases step with
  | ready content => exact ⟨content, mem, (h.frank .responder).told _ (h.said mem)⟩
  | _ => cases kind

/-- The oldest step of a side that is no event yet comes in time. -/
theorem timely (h : c.Tracks t)
    (next : saidBy role (c.log t.events) ++ [step] <+: (t.sides role).sent) :
    c.Timely (c.log t.events) role step := by
  obtain ⟨s, told, heard⟩ := h.stage role
  have offer : c.Says role step :=
    (h.frank role).told step (next.subset (List.mem_append_right _ (List.mem_singleton_self _)))
  have nextKind : (saidBy role (c.log t.events)).map (·.kind) ++ [step.kind] <+:
      (t.sides role).sent.map (·.kind) := by
    simpa using next.map (·.kind)
  have due := due_of_next told nextKind
  have answer (kind : step.kind ∈ [StepKind.accept, .key, .mac, .done])
      (due : ∃ kind ∈ s.taken role, kind ∈ [StepKind.start, .accept, .key, .mac]) :
      c.Timely (c.log t.events) role step := by
    obtain ⟨kind', mem, run⟩ := due
    obtain ⟨other, said, rfl⟩ := heard kind' mem
    refine .answer kind ⟨other, said, ?_⟩
    unfold isRunStep
    revert run
    cases other.kind <;> decide
  cases step with
  | cancel content => exact .cancel role content
  | ready content =>
    obtain ⟨rfl, silent⟩ := due.resolve_left (by simp [Step.kind])
    exact .ready (h.cancel_of_silent (List.map_eq_nil_iff.1 silent)) offer
  | start content =>
    obtain ⟨first, ready⟩ := due.resolve_left (by simp [Step.kind])
    refine .start (h.exists_ready ?_) (fun content mem => ?_) offer
    · cases role with
      | requester => exact heard .ready (by simpa using ready)
      | responder =>
        obtain ⟨other, mem, kind⟩ := List.mem_map.1 (show StepKind.ready ∈ _ from ready)
        exact ⟨other, mem_saidBy.1 mem, kind⟩
    · exact first (List.mem_map.2 ⟨_, mem_saidBy.2 mem, rfl⟩)
  | accept | key | mac | done =>
    exact answer (by simp [Step.kind]) (due.resolve_left (by simp [Step.kind]))

/-- The user of a side does something. -/
theorem act (h : c.Tracks t) (role : Role) (wish : Wish) (a : Answers) :
    c.Tracks (c.after t (.act role wish a)) := by
  have next := h.advance role (p := (t.sides role).perform wish.operation a)
    (h.harmony.step (.act role wish a)) ((h.frank role).perform wish.operation a ?_)
    (Meeting.sent_perform (t.sides role) wish.operation a ▸ List.prefix_append _ _) (h.within role)
    (h.taken role)
  · rwa [Function.update_eq_self] at next
  · intro sender content same
    cases wish <;> cases same

/-- A side's step becomes an event. -/
theorem post (h : c.Tracks t) (role : Role) (eventId : String) (timestamp : UInt64) :
    c.Tracks (c.after t (.post role eventId timestamp)) := by
  simp only [after]
  split
  · exact h
  · rename_i step found
    have next : saidBy role (c.log t.events) ++ [step] <+: (t.sides role).sent := by
      obtain ⟨rest, sent⟩ := h.posted role
      rw [← sent, List.getElem?_append_right (Nat.le_refl _), Nat.sub_self,
        ← List.head?_eq_getElem?, List.head?_eq_some_iff] at found
      obtain ⟨rest, rfl⟩ := found
      exact ⟨rest, by simpa using sent⟩
    have entry := entry?_eventOf (h.frank role).terms eventId timestamp step
    refine h.append _ (Role.forall_of role ?_ ?_) ?_
    · rw [log_concat, entry, saidBy_append]
      exact (saidBy_self role step).symm ▸ next
    · rw [log_concat, entry, saidBy_append]
      exact (saidBy_other role step).symm ▸ (List.append_nil _).symm ▸ h.posted role.other
    · rw [log_concat, entry]
      have mem := next.subset (List.mem_append_right _ (List.mem_singleton_self step))
      exact .concat h.causal (h.harmony.honest role step mem) (h.timely next)

theorem take_seen (found : t.events[t.seen role]? = some e) :
    t.seen role + 1 ≤ t.events.length ∧
      t.events.take (t.seen role + 1) = t.events.take (t.seen role) ++ [e] := by
  obtain ⟨bound, -⟩ := List.getElem?_eq_some_iff.1 found
  refine ⟨bound, ?_⟩
  rw [List.take_add_one, found]
  rfl

/-- An event that is no step of the other side leaves a side as it is. -/
theorem idle (h : c.Tracks t) (found : t.events[t.seen role]? = some e) {p : Party}
    (same : p = t.sides role) (nothing : saidBy role.other (c.entry? e).toList = []) :
    c.Tracks ⟨Function.update t.sides role p, t.events,
      Function.update t.seen role (t.seen role + 1)⟩ := by
  obtain ⟨bound, more⟩ := take_seen found
  subst same
  refine h.advance role ?_ (h.frank role) (List.prefix_refl _) bound ?_
  · rw [Function.update_eq_self]
    exact h.harmony
  · rw [more, log_concat, saidBy_append, nothing, List.append_nil]
    exact h.taken role

/-- A step of the other side is the next one that is under way to a side. -/
theorem hear (h : c.Tracks t) (found : t.events[t.seen role]? = some e)
    (entry : c.entry? e = some (role.other, step)) (a : Answers) :
    c.Tracks ⟨Function.update t.sides role { (t.sides role).perform (.receive none step) a with
      taken := (t.sides role).taken + 1 }, t.events,
      Function.update t.seen role (t.seen role + 1)⟩ := by
  obtain ⟨bound, more⟩ := take_seen found
  have took : saidBy role.other (c.log (t.events.take (t.seen role + 1))) =
      (t.sides role.other).sent.take (t.sides role).taken ++ [step] := by
    rw [more, log_concat, entry, saidBy_append, h.taken role]
    exact congrArg _ (saidBy_self role.other step)
  have next : (t.sides role.other).sent.take (t.sides role).taken ++ [step] <+:
      (t.sides role.other).sent :=
    took ▸ (prefix_saidBy _ (List.take_prefix _ _)).trans (h.posted role.other)
  obtain ⟨rest, split⟩ := next
  have underWay : Meeting.underWay t.sides role = step :: rest := by
    refine List.append_cancel_left ((List.take_append_drop _ _).trans (split.symm.trans ?_))
    rw [List.append_assoc]
    rfl
  have harmony := h.harmony.step (.deliver role false a)
  simp only [Meeting.step, underWay] at harmony
  refine h.advance role harmony ((h.frank role).perform _ a ?_) ?_ bound ?_
  · rintro sender content ⟨⟩
    refine (h.frank role.other).told _ ?_
    rw [← split]
    simp
  · exact Meeting.sent_perform (t.sides role) _ a ▸ List.prefix_append _ _
  · rw [took, (Meeting.Harmony.take_of_next underWay).1]

/-- A side sees an event. -/
theorem see (h : c.Tracks t) (role : Role) (a : Answers) :
    c.Tracks (c.after t (.see role a)) := by
  simp only [after]
  split
  · exact h
  · rename_i e found
    have terms := (h.frank role).terms
    unfold Party.see
    cases entry : c.entry? e with
    | none =>
      rw [operationOf_of_none terms entry]
      exact h.idle found rfl (by rw [entry]; rfl)
    | some said =>
      obtain ⟨r, step⟩ := said
      by_cases own : r = role
      · subst own
        have inRoom : (r, step) ∈ c.log t.events :=
          List.mem_filterMap.2 ⟨e, List.mem_of_getElem? found, entry⟩
        rw [operationOf_of_own terms entry (h.harmony.honest r step (h.said inRoom))]
        exact h.idle found rfl (by rw [entry]; exact saidBy_other r step)
      · obtain rfl := Role.eq_other own
        rw [operationOf_of_theirs terms entry]
        exact h.hear found entry a

/-- Whatever happens keeps a chat on its track. -/
theorem after (h : c.Tracks t) {x : Happening} (allowed : c.Allows x) :
    c.Tracks (c.after t x) := by
  cases x with
  | act role wish a => exact h.act role wish a
  | post role eventId timestamp => exact h.post role eventId timestamp
  | see role a => exact h.see role a
  | other e =>
    have same : c.log (t.events ++ [e]) = c.log t.events := by
      rw [log_concat, show c.entry? e = none from allowed]
      exact List.append_nil _
    exact h.append e (same ▸ h.posted) (same ▸ h.causal)

end Tracks

theorem tracks_run {l : List Happening} (allowed : ∀ x ∈ l, c.Allows x) : c.Tracks (c.run l) :=
  run_induction (tracks_begin c) (fun _ _ tracks allowed => tracks.after allowed) allowed

/-- The order of a room is the order of its conversation. -/
theorem causal_run {l : List Happening} (allowed : ∀ x ∈ l, c.Allows x) :
    c.Causal (c.log (c.run l).events) :=
  (tracks_run allowed).causal

end Chat

end DeviceVerification.Peers
