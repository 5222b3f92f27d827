import DeviceVerification.Proofs.Peers.Chat
import DeviceVerification.Proofs.Peers.Standing
import DeviceVerification.Proofs.Sas.Exchange
import DeviceVerification.Proofs.Service.Rereading

/-!
# A chat that is read again

A side that is done in a chat may be picked up by a new verification, which reads the events of the
room from the request on. Nobody acts in that, and yet the new verification follows the old one
through everything that was said, whatever steps crossed in the room: it has something against none
of them (`Resumes`). It finds that it is done, too, with one exception. The old verification did not
listen any more once it was done, but the new one decides at the end of the room; a counterpart that
was done and then cancelled has the last word there (`done_is_read_back_unless_cancelled`).
-/

namespace DeviceVerification

open Verification.Progress

/-! ## Where a step of a history leads -/

namespace Verification

variable {a : Answers} {v : Verification} {source : KeySource} {step : Step} {o : Outcome}

theorem commonMethods_self (methods : List Method) : commonMethods methods methods = methods := by
  simp [commonMethods]

/-- Our own ready is restored. -/
theorem Transition.own_ready {content : ReadyContent}
    (t : Transition a v source (.replay (.ready content)) o) (asked : v.state = .theirRequest) :
    o.verification.state = .ready (commonMethods v.methods content.methods) := by
  cases t with
  | ended terminal => simp [isTerminal, asked, State.isTerminal] at terminal
  | refused action => cases action
  | cancels running why => cases why
  | turn state machine feeds => cases feeds
  | replayedReady => exact enter_state _ _
  | replayedLate running state => exact absurd asked state
  | replayedRun running run => cases run

/-- Our own steps of a run, and our done step, only set flags. -/
theorem Transition.own_flag (t : Transition a v source (.replay step) o)
    (first : step.kind ≠ .ready) (last : step.kind ≠ .cancel) :
    o.verification.state = v.state := by
  cases t with
  | ended | replayedLate | replayedDone | replayedRun => rfl
  | refused action => cases action
  | cancels running why => cases why
  | turn state machine feeds => cases feeds
  | replayedReady => exact absurd rfl first
  | replayedCancel => exact absurd rfl last

/-- The counterpart's ready is taken where there are common methods. -/
theorem Transition.their_ready {content : ReadyContent}
    (t : Transition a v source (.receive none (.ready content)) o) (asked : v.state = .ownRequest)
    (hears : v.Hears none (.ready content))
    (some : commonMethods v.methods content.methods ≠ []) :
    o.verification.state = .ready (commonMethods v.methods content.methods) := by
  cases t with
  | ended terminal => simp [isTerminal, asked, State.isTerminal] at terminal
  | refused action => cases action
  | cancels running why =>
    cases why with
    | readyUnsupported _ _ none => exact absurd none some
    | runless _ _ _ kind => simp [Step.kind] at kind
    | unexpected _ surprise => simp [asked, State.expects, Step.kind] at surprise
  | turn state machine feeds => cases feeds
  | ignored running deaf => exact absurd hears deaf
  | receivedReady => exact enter_state _ _

/-- Once a run was lost, the counterpart's done step only sets a flag. -/
theorem Transition.their_done (t : Transition a v source (.receive none .done) o)
    (h : Unengaged v) (lost : v.sasLost = true) : o.verification.state = v.state := by
  cases t with
  | ended | ignored | doneFirst => rfl
  | refused action => cases action
  | cancels running why =>
    cases why with
    | runless _ _ _ kind => simp [Step.kind] at kind
    | unexpected _ _ kept => cases lost.symm.trans (kept rfl)
  | turn state machine feeds => cases feeds
  | doneLast _ state => exact absurd state (h.unfinished _)

/-- The counterpart's cancellation ends a verification, and is not answered. -/
theorem Transition.their_cancel {content : CancelContent}
    (t : Transition a v source (.receive none (.cancel content)) o) (running : v.isTerminal = false)
    (answered : v.state ≠ .theirRequest) :
    o.verification.state = .cancelled content false ∧ o.effects = [] := by
  cases t with
  | ended terminal => cases running.symm.trans terminal
  | refused action => cases action
  | cancels _ why =>
    cases why with
    | runless _ _ _ kind => simp [Step.kind] at kind
    | unexpected _ surprise => cases v.state <;> cases surprise
  | turn state machine feeds => cases feeds
  | ignored _ deaf =>
    refine absurd ⟨?_, ?_⟩ deaf
    · simp [isStray, Step.fromDevice?]
    · simp [isRunStep, Step.kind]
  | answeredElsewhere _ state => exact absurd state answered
  | cancelledByThem => exact ⟨enter_state _ _, rfl⟩

/-- Once a run was lost, a step of a run is taken in silence and changes no state. -/
theorem deaf_of_lost (a : Answers) (source : KeySource) (lost : v.sasLost = true)
    (run : isRunStep step = true) : ¬v.Objects step ∧
      (perform a (.receive none step) v source).verification.state = v.state := by
  obtain ⟨n, reply, same⟩ := perform_of_lost a source none lost run
  refine ⟨fun objects => ?_, congrArg (·.verification.state) same⟩
  simpa [lost, run] using objects.hears.kept

end Verification

namespace Peers

open Verification

theorem Meeting.sas_mem_offered {m : Meeting} (offered : m.offered ≠ []) : .sas ∈ m.offered := by
  obtain ⟨method, mem⟩ := List.exists_mem_of_ne_nil _ offered
  have supported : method ∈ supportedMethods := by
    simpa using (List.mem_filter.1 mem).2
  exact List.mem_singleton.1 supported ▸ mem

/-! ## Reading a log -/

/-- What a step of a chat is to a side that reads it. -/
def Role.past (role : Role) (e : Role × Step) : PastStep :=
  if e.1 = role then .own e.2 else .their e.2

theorem Role.past_own (role : Role) (step : Step) : role.past (role, step) = .own step :=
  if_pos rfl

theorem Role.past_their (role : Role) (step : Step) : role.past (role.other, step) = .their step :=
  if_neg role.other_ne

theorem Role.own_mem_past {role : Role} {log : List (Role × Step)} {step : Step} :
    .own step ∈ log.map role.past ↔ (role, step) ∈ log := by
  refine ⟨fun mem => ?_, fun mem => ?_⟩
  · obtain ⟨e, said, same⟩ := List.mem_map.1 mem
    unfold past at same
    split at same
    · rename_i own
      cases same
      exact own ▸ said
    · cases same
  · exact Role.past_own role step ▸ List.mem_map_of_mem mem

namespace Chat

variable (c : Chat)

/-- A new verification of a side, once it read a history. -/
def resumed (role : Role) (source : KeySource) (history : List (RoomEvent × Answers)) : Run :=
  reread (c.identity role) (c.settings role) c.roomId (c.request role) source history

/-- A new verification of a side, once it read a history to its end. -/
def restored (role : Role) (source : KeySource) (history : List (RoomEvent × Answers))
    (a : Answers) : Run :=
  (c.resumed role source history).step (.finishReplay, a)

variable {c} {role : Role} {r : Run} {past : RoomEvent × Answers} {log : List (Role × Step)}
  {step : Step} {a : Answers}

theorem resumed_concat (role : Role) (source : KeySource) (history : List (RoomEvent × Answers))
    (past : RoomEvent × Answers) : c.resumed role source (history ++ [past]) =
      (c.resumed role source history).read (c.identity role) past := by
  rw [resumed, reread, List.foldl_append]
  rfl

theorem read_of_none (terms : SameTerms (c.toMeeting.begin role).verification r.verification)
    (none : c.entry? past.1 = none) : r.read (c.identity role) past = r := by
  simp only [Run.read, operationOf_of_none terms none]

theorem read_of_entry (terms : SameTerms (c.toMeeting.begin role).verification r.verification)
    {speaker : Role} (entry : c.entry? past.1 = some (speaker, step))
    (honest : Honest (c.identity speaker) step) : r.read (c.identity role) past =
      r.step ((role.past (speaker, step)).operation, past.2) := by
  by_cases own : speaker = role
  · subst own
    simp only [Run.read, operationOf_of_own terms entry honest, Role.past_own]
    rfl
  · obtain rfl := Role.eq_other own
    simp only [Run.read, operationOf_of_theirs terms entry, Role.past_their]
    rfl

/-- What a log of which nothing was cancelled makes of the state of a side that reads it: the
request is open until the ready, and stays answered after it. -/
inductive Phase (role : Role) (log : List (Role × Step)) : State → Prop where
  | asked (silent : log = []) : Phase role log role.request
  | ready {methods : List Method} (spoken : log ≠ [])
      (unstarted : ∀ content, (role.other, .start content) ∉ log) : Phase role log (.ready methods)
  | started {s : State} (spoken : log ≠ [])
      (started : ∃ content, (role.other, .start content) ∈ log)
      (answered : s.isRequestPhase = false) : Phase role log s

namespace Phase

variable {s : State} {e : Role × Step}

theorem eq_request (h : Phase role [] s) : s = role.request := by
  cases h with
  | asked => rfl
  | ready spoken | started spoken => exact absurd rfl spoken

theorem answered (h : Phase role log s) (spoken : log ≠ []) : s.isRequestPhase = false := by
  cases h with
  | asked silent => exact absurd silent spoken
  | ready => rfl
  | started _ _ answered => exact answered

theorem eq_ready (h : Phase role log s) (spoken : log ≠ [])
    (unstarted : ∀ content, (role.other, .start content) ∉ log) :
    ∃ methods, s = .ready methods := by
  cases h with
  | asked silent => exact absurd silent spoken
  | @ready methods => exact ⟨methods, rfl⟩
  | started _ started =>
    obtain ⟨content, mem⟩ := started
    exact absurd mem (unstarted content)

/-- A step that leaves the state as it is, other than a start of the other side. -/
theorem concat (h : Phase role log s) (spoken : log ≠ [])
    (other : ∀ content, e ≠ (role.other, .start content)) : Phase role (log ++ [e]) s := by
  have more : log ++ [e] ≠ [] := by simp
  cases h with
  | asked silent => exact absurd silent spoken
  | ready _ unstarted =>
    refine .ready more fun content mem => ?_
    rcases List.mem_append.1 mem with old | new
    · exact unstarted content old
    · exact other content (List.mem_singleton.1 new).symm
  | started _ started answered =>
    obtain ⟨content, mem⟩ := started
    exact .started more ⟨content, List.mem_append_left _ mem⟩ answered

end Phase

/-- What holds of a side that read a log of which nothing was cancelled: it follows the log, and
says nothing. -/
structure Resumes (c : Chat) (role : Role) (log : List (Role × Step)) (r : Run) : Prop where
  recounts : Recounts (log.map role.past) r
  running : r.verification.isTerminal = false
  silent : r.effects = []
  terms : SameTerms (c.toMeeting.begin role).verification r.verification
  route : r.verification.route = .room c.roomId
  settings : r.verification.settings = c.settings role
  methods : r.verification.methods = c.offered
  device : ∀ device, r.verification.theirDevice = some device →
    device = (c.identity role.other).device
  phase : Phase role log r.verification.state

theorem resumes_begin (c : Chat) (role : Role) (source : KeySource) :
    Resumes c role [] (c.resumed role source []) where
  recounts := ⟨unengaged_ofRequest _ _ _ _, plain_nil, fun _ => ⟨rfl, rfl, rfl⟩⟩
  running := by cases role <;> rfl
  silent := rfl
  terms := ⟨rfl, rfl⟩
  route := rfl
  settings := rfl
  methods := rfl
  device device known := by
    cases role with
    | requester => cases known
    | responder => exact (Option.some.inj known).symm
  phase := by
    have state : (c.resumed role source []).verification.state = role.request := by
      cases role <;> rfl
    rw [state]
    exact .asked rfl

/-- A ready offers the methods of the request. -/
theorem Timely.methods_eq {speaker : Role} {content : ReadyContent}
    (h : Timely c log speaker (.ready content)) : content.methods = c.offered := by
  cases h with
  | ready first offer => exact offer.1
  | answer kind => simp [Step.kind] at kind

namespace Resumes

/-- A step that is taken in silence and does not end the verification leaves the state to
look at. -/
theorem extend (h : Resumes c role log r) {speaker : Role}
    (honest : Honest (c.identity speaker) step) (timely : Timely c log speaker step)
    (silent :
      (perform a (role.past (speaker, step)).operation r.verification r.source).effects = [])
    (running : (perform a (role.past (speaker, step)).operation r.verification
      r.source).verification.isTerminal = false)
    (phase : Phase role (log ++ [(speaker, step)]) (perform a
      (role.past (speaker, step)).operation r.verification r.source).verification.state) :
    Resumes c role (log ++ [(speaker, step)])
      (r.step ((role.past (speaker, step)).operation, a)) := by
  -- What is received is the step, and of the other side.
  have received {sender : Option String} {step' : Step}
      (same : (role.past (speaker, step)).operation = .receive sender step') :
      speaker = role.other ∧ step' = step := by
    unfold Role.past at same
    split at same
    · cases same
    · rename_i other
      cases same
      exact ⟨Role.eq_other other, rfl⟩
  refine ⟨?_, running, ?_, ?_, ?_, ?_, ?_, ?_, phase⟩
  · rw [List.map_append]
    exact h.recounts.step _ a
  · rw [Run.step, Run.effects_extend, h.silent, silent]
    rfl
  · exact h.terms.trans (sameTerms_perform a _ _ _)
  · exact route_perform a _ _ h.route
  · exact (offers_perform a _ r.verification r.source).settings.trans h.settings
  · rcases (offers_perform a (role.past (speaker, step)).operation r.verification
      r.source).methods with same | ⟨sender, content, receives, -, same⟩
    · exact same.trans h.methods
    · obtain ⟨-, rfl⟩ := received receives
      refine same.trans ?_
      rw [h.methods, timely.methods_eq, commonMethods_self]
  · intro device known
    cases pins_perform a (role.past (speaker, step)).operation r.verification r.source with
    | keeps same => exact h.device device (same ▸ known)
    | fixes receives near named _ chosen =>
      obtain ⟨rfl, rfl⟩ := received receives
      obtain rfl := Option.some.inj (chosen.symm.trans known)
      exact honest.device _ named

/-- A side that read its own step of a run lost the run. -/
theorem lost (h : Resumes c role log r) (run : Ran role log) :
    r.verification.sasLost = true := by
  obtain ⟨s, mem, run⟩ := run
  exact (h.recounts.tells h.running).sasLost_iff.2 ⟨.own s, Role.own_mem_past.2 mem, run⟩

/-- A step of the other side is heard, unless it is of a run that was lost. -/
theorem hears (h : Resumes c role log r) (honest : Honest (c.identity role.other) step)
    (kept : (r.verification.sasLost && isRunStep step) = false) :
    r.verification.Hears none step where
  near := by
    unfold isStray
    split
    · rename_i expected sender known named
      have names : step.fromDevice? = some sender := named
      simp [h.device expected known, honest.device sender names]
    · rfl
  kept := kept

/-- What a step does to a side. -/
theorem transition (h : Resumes c role log r) (op : Operation) (a : Answers) :
    Transition a (r.verification.counted op) r.source op (perform a op r.verification r.source) :=
  transition_of_perform h.recounts.unengaged.free op

/-- A side reads a step of its own. -/
theorem step_own (h : Resumes c role log r) (honest : Honest (c.identity role) step)
    (timely : Timely c log role step) (uncancelled : ∀ e ∈ log, e.2.kind ≠ .cancel)
    (kind : step.kind ≠ .cancel) (a : Answers) :
    Resumes c role (log ++ [(role, step)]) (r.step ((role.past (role, step)).operation, a)) := by
  have op : (role.past (role, step)).operation = .replay step := by rw [Role.past_own]; rfl
  have silent := (silent_of_replay h.recounts.unengaged a step r.source).1
  have flags (spoken : log ≠ []) (first : step.kind ≠ .ready) :
      Resumes c role (log ++ [(role, step)])
        (r.step ((role.past (role, step)).operation, a)) := by
    have same := (h.transition (.replay step) a).own_flag first kind
    refine h.extend honest timely (op ▸ silent) ?_ ?_
    · rw [op, isTerminal, same]
      exact h.running
    · rw [op, same, counted_state]
      refine h.phase.concat spoken fun content same => ?_
      exact role.other_ne (congrArg Prod.fst same).symm
  cases timely with
  | @ready content first offer =>
    obtain rfl : log = [] :=
      List.eq_nil_iff_forall_not_mem.2 fun e mem => uncancelled e mem (first e mem)
    have state := (h.transition (.replay (.ready content)) a).own_ready
      ((counted_state _ _).trans h.phase.eq_request)
    refine h.extend honest (.ready first offer) (op ▸ silent) ?_ ?_
    · rw [op, isTerminal, state]
      rfl
    · rw [op, state]
      exact .ready (by simp) (by simp [Role.other])
  | start answered =>
    obtain ⟨content, mem, -⟩ := answered
    exact flags (List.ne_nil_of_mem mem) (by simp [Step.kind])
  | answer among heard =>
    obtain ⟨s, mem, -⟩ := heard
    refine flags (List.ne_nil_of_mem mem) fun ready => ?_
    rw [ready] at among
    simp at among
  | cancel => exact absurd rfl kind

/-- A step of the other side that is welcome leaves the state to look at. -/
theorem welcome (h : Resumes c role log r) (honest : Honest (c.identity role.other) step)
    (timely : Timely c log role.other step) (kind : step.kind ≠ .cancel)
    (agreed : ¬r.verification.Objects step)
    (phase : Phase role (log ++ [(role.other, step)])
      (perform a (.receive none step) r.verification r.source).verification.state) :
    Resumes c role (log ++ [(role.other, step)])
      (r.step ((role.past (role.other, step)).operation, a)) := by
  have op : (role.past (role.other, step)).operation = .receive none step := by
    rw [Role.past_their]
    rfl
  cases answers_perform h.recounts.unengaged h.route a step r.source with
  | objected objects => exact absurd objects agreed
  | silent _ quiet running =>
    refine h.extend honest timely (op ▸ quiet) (op ▸ running h.running ?_) (op ▸ phase)
    rintro content rfl
    exact kind rfl

/-- The ready of the other side is welcome to a side that asked. -/
theorem their_ready {content : ReadyContent} (h : Resumes c .requester [] r)
    (honest : Honest (c.identity .responder) (.ready content))
    (timely : Timely c [] .responder (.ready content))
    (offer : c.Says .responder (.ready content)) (a : Answers) :
    Resumes c .requester [(.responder, .ready content)]
      (r.step ((Role.requester.past (.responder, .ready content)).operation, a)) := by
  have asked : r.verification.state = .ownRequest := h.phase.eq_request
  have some : commonMethods r.verification.methods content.methods ≠ [] := by
    rw [h.methods, offer.1, commonMethods_self]
    exact offer.2
  have hears : r.verification.Hears none (.ready content) :=
    h.hears honest (by simp [isRunStep, Step.kind])
  have state := (h.transition (.receive none (.ready content)) a).their_ready
    ((counted_state _ _).trans asked) ((hears_counted _ _).2 hears) (by rwa [counted_methods])
  refine h.welcome honest timely (by simp [Step.kind])
    (fun objects => some (objects.unwelcome asked)) ?_
  rw [state]
  exact .ready (by simp) (by simp)

/-- A start of the other side is welcome, or comes too late to be heard. -/
theorem their_start {content : StartContent} (h : Resumes c role log r) (compatible : c.Compatible)
    (honest : Honest (c.identity role.other) (.start content))
    (timely : Timely c log role.other (.start content)) (spoken : log ≠ [])
    (offered : c.offered ≠ [])
    (first : ∀ content, (role.other, .start content) ∉ log)
    (offer : c.Says role.other (.start content)) (a : Answers) :
    Resumes c role (log ++ [(role.other, .start content)])
      (r.step ((role.past (role.other, .start content)).operation, a)) := by
  refine h.welcome honest timely (by simp [Step.kind]) (fun objects => ?_)
    (.started (by simp) ⟨content, by simp⟩ (Bool.eq_false_iff.2 fun isOpen => ?_))
  · have kept : r.verification.sasLost = false := by
      cases lost : r.verification.sasLost with
      | false => rfl
      | true => exact absurd objects (deaf_of_lost a r.source lost rfl).1
    -- Nothing of a run was said before, so the start is looked at.
    rcases objects.unwelcome (.inr (h.phase.eq_ready spoken first)) with unsupported | unagreed
    · rw [h.methods, show content = _ from offer] at unsupported
      exact unsupported (Meeting.sas_mem_offered offered)
    · rw [h.settings, show content = _ from offer] at unagreed
      exact compatible role unagreed
  · have same := (speaks_perform a (.receive none (.start content)) r.verification
      r.source).state_eq isOpen
    rw [← same, h.phase.answered spoken] at isOpen
    cases isOpen

/-- What the other side answers in a run, and its done step, change no state: our own part of the
run was lost. -/
theorem their_answer (h : Resumes c role log r) (honest : Honest (c.identity role.other) step)
    (timely : Timely c log role.other step)
    (among : step.kind ∈ [StepKind.accept, .key, .mac, .done]) (ran : Ran role log) (a : Answers) :
    Resumes c role (log ++ [(role.other, step)])
      (r.step ((role.past (role.other, step)).operation, a)) := by
  have lost := h.lost ran
  obtain ⟨s, mem, -⟩ := ran
  have later (other : ∀ content, step ≠ .start content) (state : (perform a (.receive none step)
      r.verification r.source).verification.state = r.verification.state) :
      Phase role (log ++ [(role.other, step)])
        (perform a (.receive none step) r.verification r.source).verification.state := by
    rw [state]
    exact h.phase.concat (List.ne_nil_of_mem mem) fun content same =>
      other content (congrArg Prod.snd same)
  have deaf (run : isRunStep step = true) := deaf_of_lost a r.source lost run
  cases step with
  | ready | start | cancel => simp [Step.kind] at among
  | accept | key | mac =>
    obtain ⟨agreed, state⟩ := deaf rfl
    exact h.welcome honest timely (by simp [Step.kind]) agreed (later (by simp) state)
  | done =>
    have state := (h.transition (.receive none .done) a).their_done
      (h.recounts.unengaged.counted _) ((counted_sasLost _ _).trans lost)
    refine h.welcome honest timely (by simp [Step.kind]) (fun objects => ?_)
      (later (by simp) (state.trans (counted_state _ _)))
    cases lost.symm.trans objects.unwelcome.2

/-- A side reads a step of the other one. -/
theorem step_their (h : Resumes c role log r) (compatible : c.Compatible)
    (honest : Honest (c.identity role.other) step) (timely : Timely c log role.other step)
    (uncancelled : ∀ e ∈ log, e.2.kind ≠ .cancel) (kind : step.kind ≠ .cancel) (a : Answers) :
    Resumes c role (log ++ [(role.other, step)])
      (r.step ((role.past (role.other, step)).operation, a)) := by
  have again := timely
  generalize speaks : role.other = speaker at again
  cases again with
  | cancel => exact absurd rfl kind
  | start answered first offer =>
    subst speaks
    obtain ⟨ready, mem, -, offered⟩ := answered
    exact h.their_start compatible honest timely (List.ne_nil_of_mem mem) offered first offer a
  | answer among heard =>
    subst speaks
    rw [Role.other_other] at heard
    exact h.their_answer honest timely among heard a
  | ready first offer =>
    obtain rfl : role = .requester := by cases role <;> first | rfl | cases speaks
    obtain rfl : log = [] :=
      List.eq_nil_iff_forall_not_mem.2 fun e mem => uncancelled e mem (first e mem)
    exact h.their_ready honest timely offer a

/-- A cancellation of the other side ends a side that has answered the request, in silence. -/
theorem step_cancel (h : Resumes c role log r) (spoken : log ≠ []) (content : CancelContent)
    (a : Answers) :
    (r.step (.receive none (.cancel content), a)).verification.state = .cancelled content false ∧
      (r.step (.receive none (.cancel content), a)).effects = [] := by
  have answered : r.verification.state ≠ .theirRequest := by
    intro asked
    cases (asked ▸ h.phase.answered spoken :)
  have running : (r.verification.counted (.receive none (.cancel content))).isTerminal = false := by
    rw [isTerminal, counted_state]
    exact h.running
  obtain ⟨state, silent⟩ := (h.transition (.receive none (.cancel content)) a).their_cancel running
    (by rwa [counted_state])
  refine ⟨state, ?_⟩
  rw [Run.step, Run.effects_extend, h.silent]
  exact silent

end Resumes

/-! ## The whole history -/

/-- What holds of a side that read a log: it follows the log as long as nothing is cancelled, and a
cancellation ends it in silence. -/
inductive Listens (c : Chat) (role : Role) (log : List (Role × Step)) (r : Run) : Prop where
  | goes (uncancelled : ∀ e ∈ log, e.2.kind ≠ .cancel) (resumes : c.Resumes role log r)
  | ended {content : CancelContent} (cancelled : (role.other, .cancel content) ∈ log)
      (state : r.verification.state = .cancelled content false) (silent : r.effects = [])
      (terms : SameTerms (c.toMeeting.begin role).verification r.verification)

/-- What a side that is done leaves in a room. -/
structure Concluded (c : Chat) (role : Role) (log : List (Role × Step)) : Prop where
  compatible : c.Compatible
  kept : ∀ content, (role, .cancel content) ∉ log
  late : ∀ content, log.head? ≠ some (role.other, .cancel content)
  causal : c.Causal log

theorem Causal.concat_inv {speaker : Role} (h : c.Causal (log ++ [(speaker, step)])) :
    c.Causal log ∧ Honest (c.identity speaker) step ∧ c.Timely log speaker step := by
  generalize eq : log ++ [(speaker, step)] = whole at h
  cases h with
  | nil => simp at eq
  | concat before honest timely =>
    obtain ⟨rfl, same⟩ := List.append_inj' eq rfl
    cases same
    exact ⟨before, honest, timely⟩

/-- Before a side says that it is done, the other one said something in a run. -/
theorem Causal.ran_of_done {speaker : Role} (h : c.Causal log) (done : (speaker, .done) ∈ log) :
    Ran speaker.other log := by
  induction h with
  | nil => cases done
  | concat before honest timely ih =>
    rcases List.mem_append.1 done with old | new
    · exact (ih old).append _
    · cases List.mem_singleton.1 new
      cases timely with
      | answer _ heard => exact heard.append _

/-- What is left in a room is left in each part of it. -/
theorem Concluded.of_concat {e : Role × Step} (h : c.Concluded role (log ++ [e])) :
    c.Concluded role log where
  compatible := h.compatible
  kept content mem := h.kept content (List.mem_append_left _ mem)
  late content first := h.late content (by simp [List.head?_append, first])
  causal := h.causal.concat_inv.1

/-- A side reads the step of an event. -/
theorem Listens.concat (h : c.Listens role log r) {speaker : Role}
    (concluded : c.Concluded role (log ++ [(speaker, step)])) (a : Answers) :
    c.Listens role (log ++ [(speaker, step)])
      (r.step ((role.past (speaker, step)).operation, a)) := by
  obtain ⟨-, honest, timely⟩ := concluded.causal.concat_inv
  cases h with
  | ended cancelled state silent terms =>
    obtain ⟨reply, same⟩ := perform_of_terminal (v := r.verification)
      (by rw [isTerminal, state]; rfl) a (role.past (speaker, step)).operation r.source
    refine .ended (List.mem_append_left _ cancelled) ?_ ?_ ?_
    · rw [Run.step, same]
      exact state
    · rw [Run.step, Run.effects_extend, same, silent]
      rfl
    · exact terms.trans (sameTerms_perform a _ _ _)
  | goes uncancelled resumes =>
    by_cases kind : step.kind = .cancel
    · cases step with
      | cancel content =>
        obtain rfl : speaker = role.other := by
          refine Role.eq_other fun own => concluded.kept content ?_
          simp [own]
        have spoken : log ≠ [] := by
          rintro rfl
          exact concluded.late content rfl
        obtain ⟨state, silent⟩ := resumes.step_cancel spoken content a
        rw [Role.past_their]
        exact .ended (List.mem_append_right _ (List.mem_singleton_self _)) state silent
          (resumes.terms.trans (sameTerms_perform a _ _ _))
      | _ => cases kind
    · refine .goes ?_ ?_
      · intro e mem
        rcases List.mem_append.1 mem with old | new
        · exact uncancelled e old
        · rwa [List.mem_singleton.1 new]
      · by_cases own : speaker = role
        · subst own
          exact resumes.step_own honest timely uncancelled kind a
        · obtain rfl := Role.eq_other own
          exact resumes.step_their concluded.compatible honest timely uncancelled kind a

theorem Listens.sameTerms (h : c.Listens role log r) :
    SameTerms (c.toMeeting.begin role).verification r.verification := by
  cases h with
  | goes uncancelled resumes => exact resumes.terms
  | ended cancelled state silent terms => exact terms

/-- A side that reads a room listens to all that is in it. -/
theorem listens_resumed (source : KeySource) (history : List (RoomEvent × Answers))
    (concluded : c.Concluded role (c.log (history.map (·.1)))) :
    c.Listens role (c.log (history.map (·.1))) (c.resumed role source history) := by
  induction history using List.reverseRecOn with
  | nil => exact .goes (fun e mem => by cases mem) (resumes_begin c role source)
  | append_singleton history past ih =>
    rw [List.map_append, List.map_singleton, log_concat] at concluded ⊢
    rw [resumed_concat]
    cases entry : c.entry? past.1 with
    | none =>
      rw [entry, Option.toList_none, List.append_nil] at concluded
      have before := ih concluded
      rw [read_of_none before.sameTerms entry, Option.toList_none, List.append_nil]
      exact before
    | some said =>
      obtain ⟨speaker, step⟩ := said
      rw [entry, Option.toList_some] at concluded
      have before := ih concluded.of_concat
      rw [read_of_entry before.sameTerms entry concluded.causal.concat_inv.2.1, Option.toList_some]
      exact before.concat concluded past.2

/-! ## A side that is done -/

/-- A stage at which a side says that it is done comes after an accepted start, and nothing is
cancelled at any stage. -/
theorem done_table : ∀ role ∈ [Role.requester, .responder], ∀ s ∈ Stage.all,
    .cancel ∉ s.sent role ∧
      (.done ∈ s.sent role → .accept ∈ s.sent role ∨ .accept ∈ s.taken role) := by
  decide +kernel

/-- A side that told that it is done began with something else than a cancellation, and a start was
accepted. -/
theorem accepted_of_done {s : Stage} {told : List StepKind}
    (told_eq : told = s.sent role ∨ told = s.sent role ++ [.cancel]) (done : .done ∈ told) :
    told.head? ≠ some .cancel ∧ (.accept ∈ told ∨ .accept ∈ s.taken role) := by
  obtain ⟨kept, accepted⟩ := done_table role (by cases role <;> decide) s (Stage.mem_all s)
  have said : .done ∈ s.sent role := by
    rcases told_eq with rfl | rfl
    · exact done
    · simpa using done
  have begins : s.sent role <+: told := by
    rcases told_eq with rfl | rfl
    · exact List.prefix_refl _
    · exact List.prefix_append _ _
  refine ⟨fun first => kept ?_, (accepted said).imp_left fun mem => begins.subset mem⟩
  obtain ⟨rest, rfl⟩ := begins
  cases sent : s.sent role with
  | nil => simp [sent] at said
  | cons kind others =>
    rw [sent] at first
    cases first
    exact List.mem_cons_self

namespace Tracks

variable {t : Talk}

/-- What a side that is done has heard is in the room. -/
theorem heard_done (h : c.Tracks t) (state : (t.sides role).verification.state = .done) :
    (role.other, .done) ∈ c.log t.events := by
  have heard := (h.harmony.done_of_state role state).2
  rw [← h.taken role] at heard
  exact mem_saidBy.1 ((prefix_saidBy _ (List.take_prefix _ _)).subset heard)

/-- Only sides that have algorithms in common accept a start. -/
theorem compatible (h : c.Tracks t) {r : Role} (mem : step ∈ (t.sides r).sent)
    (accept : step.kind = .accept) : c.Compatible := by
  cases step with
  | accept content => exact (h.frank r).told _ mem
  | _ => cases accept

/-- A side that is done leaves a room in which it did not cancel and the other side said something
else first. -/
theorem concluded (h : c.Tracks t) (state : (t.sides role).verification.state = .done) :
    c.Concluded role (c.log t.events) := by
  have told := h.harmony.told_done role state
  have kind (r : Role) : .done ∈ (t.sides r).sent.map (·.kind) :=
    List.mem_map.2 ⟨.done, told r, rfl⟩
  refine ⟨?_, fun content mem => ?_, fun content first => ?_, h.causal⟩
  · obtain ⟨s, told_eq, heard⟩ := h.stage role
    rcases (accepted_of_done told_eq (kind role)).2 with own | their
    · obtain ⟨step, mem, accept⟩ := List.mem_map.1 own
      exact h.compatible mem accept
    · obtain ⟨step, mem, accept⟩ := heard .accept their
      exact h.compatible (h.said mem) accept
  · cases state.symm.trans ((h.frank role).last content (h.said mem))
  · obtain ⟨s, told_eq, -⟩ := h.stage role.other
    refine (accepted_of_done told_eq (kind role.other)).1 ?_
    obtain ⟨rest, log⟩ := List.head?_eq_some_iff.1 first
    obtain ⟨more, sent⟩ := h.posted role.other
    rw [← sent, log]
    simp [saidBy, Step.kind]

/-- A side that is done reads last that the other one cancelled. -/
theorem restored_of_cancelled (h : c.Tracks t)
    (done : (t.sides role).verification.state = .done) (source : KeySource)
    {history : List (RoomEvent × Answers)} (whole : history.map (·.1) = t.events)
    {content : CancelContent} (told : (role.other, .cancel content) ∈ c.log t.events)
    (a : Answers) :
    (c.restored role source history a).verification.state = .cancelled content false := by
  have listens := listens_resumed source history (whole ▸ h.concluded done)
  rw [whole] at listens
  cases listens with
  | ended cancelled state silent =>
    obtain ⟨reply, same⟩ := perform_of_terminal
      (v := (c.resumed role source history).verification) (by rw [isTerminal, state]; rfl) a
      .finishReplay (c.resumed role source history).source
    have last := (h.frank role.other).last
    -- Both are the last thing that the other side said.
    cases (last _ (h.said told)).symm.trans (last _ (h.said cancelled))
    rw [restored, Run.step, same]
    exact state
  | goes uncancelled resumes => exact absurd rfl (uncancelled _ told)

end Tracks

/-- **A side that is done finds that it is done, unless the other one cancelled.** Two honest users
talk in a room, until one of their sides is done. Whatever crossed in the room, a new verification
of that side that reads all of it says nothing. If the other side cancelled, which the side did not
listen to any more, it ends cancelled. Otherwise it is done, as soon as its own done step is among
the events. -/
theorem done_is_read_back_unless_cancelled (c : Chat) {l : List Happening}
    (allowed : ∀ x ∈ l, c.Allows x) {role : Role}
    (done : ((c.run l).sides role).verification.state = .done) (source : KeySource)
    {history : List (RoomEvent × Answers)} (whole : history.map (·.1) = (c.run l).events)
    (a : Answers) :
    (c.restored role source history a).effects = [] ∧
      (∀ content, (role.other, .cancel content) ∈ c.log (c.run l).events →
        (c.restored role source history a).verification.state = .cancelled content false) ∧
      ((∀ content, (role.other, .cancel content) ∉ c.log (c.run l).events) →
        (c.restored role source history a).verification.state =
          if (role, .done) ∈ c.log (c.run l).events then .done else .undefined) := by
  have tracks := tracks_run allowed
  have heard := tracks.heard_done done
  have ran : Ran role (c.log (c.run l).events) :=
    role.other_other ▸ tracks.causal.ran_of_done heard
  have listens := listens_resumed source history (whole ▸ tracks.concluded done)
  rw [whole] at listens
  unfold restored
  rw [Run.effects_finishReplay]
  cases listens with
  | ended cancelled state silent =>
    refine ⟨silent, fun content mem => ?_, fun kept => absurd cancelled (kept _)⟩
    exact tracks.restored_of_cancelled done source whole mem a
  | goes uncancelled resumes =>
    refine ⟨resumes.silent, fun content mem => absurd rfl (uncancelled _ mem), fun _ => ?_⟩
    obtain ⟨s, mem, run⟩ := ran
    have lost : ∃ e ∈ (c.log (c.run l).events).map role.past, e.isOwnRun = true :=
      ⟨.own s, Role.own_mem_past.2 mem, run⟩
    have theirs : PastStep.their .done ∈ (c.log (c.run l).events).map role.past :=
      Role.past_their role .done ▸ List.mem_map_of_mem heard
    rw [resumes.recounts.finish_of_lost resumes.running lost a]
    simp [Role.own_mem_past, theirs]

/-! ### Bob gives up too late -/

section

open Sas Sas.Duet Meeting

/-- Alice asks Bob to verify her in a room. -/
def sampleChat : Chat where
  toMeeting := sampleInRoom
  roomId := "!r"
  inRoom _ := rfl
  foreign := by decide

/-- The user of a side does something, which leads to events. -/
def goes (role : Role) (wish : Wish) (eventIds : List String) : List Happening :=
  .act role wish sampleAcquainted :: eventIds.map fun id => .post role id 0

/-- A side sees a number of events, which lead to others. -/
def hears (role : Role) (events : Nat) (eventIds : List String) : List Happening :=
  List.replicate events (.see role sampleAcquainted) ++ eventIds.map fun id => .post role id 0

/-- Until Bob sees that Alice started. -/
def sampleOpening : List Happening :=
  goes .responder .ready ["$1"] ++ hears .requester 1 [] ++
    goes .requester (.start .sas) ["$2"] ++ hears .responder 2 []

/-- Until both of them see a short code. -/
def sampleExchange : List Happening :=
  goes .responder (.act 1 .accept) ["$3"] ++ hears .requester 2 ["$4"] ++
    hears .responder 2 ["$5"] ++ hears .requester 2 []

/-- Until Alice is done. -/
def sampleConclusion : List Happening :=
  goes .requester (.act 1 .confirm) ["$6"] ++ hears .responder 2 [] ++
    goes .responder (.act 1 .confirm) ["$7", "$8"] ++ hears .requester 3 ["$9"]

/-- Bob, who does not see that she is, gives up. -/
def sampleResignation : List Happening :=
  goes .responder (.cancel ⟨.timeout, "timed out"⟩ (by unfold Calm; decide)) ["$10"]

/-- Alice starts and Bob accepts, both confirm, and Alice is done. -/
def sampleTalk : List Happening := sampleOpening ++ sampleExchange ++ sampleConclusion

/-- The room after a talk, as Alice reads it again. -/
def sampleHistory (l : List Happening) : List (RoomEvent × Answers) :=
  (sampleChat.run l).events.map fun e => (e, sampleAcquainted)

theorem sampleHistory_whole (l : List Happening) :
    (sampleHistory l).map (·.1) = (sampleChat.run l).events := by
  rw [sampleHistory, List.map_map]
  exact List.map_id _

theorem sampleTalk_allowed : ∀ x ∈ sampleTalk ++ sampleResignation, sampleChat.Allows x := by
  simp [sampleTalk, sampleOpening, sampleExchange, sampleConclusion, sampleResignation, goes, hears,
    Allows]

/-- Where Alice and Bob stand when both of them know of the start. -/
def sampleBothStarted : Standing where
  footing := startedFooting
  log := [(.responder, .ready ⟨"BOB", [.sas]⟩), (.requester, .start aliceRun.start)]
  seen
    | .requester => 1
    | .responder => 2

/-- Where they stand when both of them see a short code. -/
def sampleCompared (code : ShortCode) : Standing where
  footing
    | .requester => ⟨runs .requester (aliceShows code) 3, ⟨[]⟩,
      [.start aliceRun.start, .key ⟨(sampleKeyPair 5).publicKey⟩]⟩
    | .responder => ⟨runs .responder (bobShows code) 2, ⟨[]⟩,
      [.ready ⟨"BOB", [.sas]⟩, .accept bobAccepts, .key ⟨(sampleKeyPair 6).publicKey⟩]⟩
  log := [(.responder, .ready ⟨"BOB", [.sas]⟩), (.requester, .start aliceRun.start),
    (.responder, .accept bobAccepts), (.requester, .key ⟨(sampleKeyPair 5).publicKey⟩),
    (.responder, .key ⟨(sampleKeyPair 6).publicKey⟩)]
  seen
    | .requester => 5
    | .responder => 4

variable {t : Talk} {code : ShortCode}

theorem stands_sampleOpening :
    sampleChat.Stands (sampleChat.run sampleOpening) sampleBothStarted where
  tracks := tracks_run (by simp [sampleOpening, goes, hears, Allows])
  footing := by rintro (_ | _) <;> rfl
  entries := rfl
  seen := by funext role; cases role <;> rfl

/-- The key pairs lead to the short code on both sides. -/
theorem stands_sampleExchange (h : sampleChat.Stands t sampleBothStarted) (shown : Shown code) :
    sampleChat.Stands (sampleExchange.foldl sampleChat.after t) (sampleCompared code) := by
  have accepted := h.act .responder (.act 1 .accept) sampleAcquainted _ bob_accepts
  have saw := (accepted.post .responder "$3" 0 rfl).overhear .requester sampleAcquainted rfl
  have revealed := saw.hear .requester sampleAcquainted _ rfl alice_reveals
  have saw := (revealed.post .requester "$4" 0 rfl).overhear .responder sampleAcquainted rfl
  have answered := saw.hear .responder sampleAcquainted _ rfl (bob_shows shown)
  have saw := (answered.post .responder "$5" 0 rfl).overhear .requester sampleAcquainted rfl
  have compared := saw.hear .requester sampleAcquainted _ rfl (alice_shows shown)
  simp only [sampleExchange, goes, hears, List.replicate, List.map_cons, List.map_nil,
    List.cons_append, List.nil_append, List.foldl_cons, List.foldl_nil]
  refine compared.congr ?_ rfl ?_ <;> rintro (_ | _) <;> rfl

/-- Whatever short code they see, both trust the other, and Bob can still cancel. -/
theorem stands_sampleConclusion (h : sampleChat.Stands t (sampleCompared code)) :
    ∃ s, sampleChat.Stands (sampleConclusion.foldl sampleChat.after t) s ∧
      (s.footing .requester).verification.state = .done ∧ (.requester, .done) ∈ s.log ∧
      (∀ content, (.responder, .cancel content) ∉ s.log) ∧
      ∃ s', sampleChat.Stands ((sampleConclusion ++ sampleResignation).foldl sampleChat.after t)
          s' ∧
        (s'.footing .requester).verification.state = .done ∧
        s'.log = s.log ++ [(.responder, .cancel ⟨.timeout, "timed out"⟩)] := by
  obtain ⟨ours, verified, computed, checked, -⟩ :=
    checkMac_macContent sampleSecret .unpadded aliceRun.ownPurpose (.single (sampleKeyOf "ALICE"))
  obtain ⟨theirs, verified', computed', checked', -⟩ :=
    checkMac_macContent sampleSecret .unpadded bobRun.ownPurpose (.single (sampleKeyOf "BOB"))
  have confirmed := h.act .requester (.act 1 .confirm) sampleAcquainted _ (alice_confirms computed)
  have saw := (confirmed.post .requester "$6" 0 rfl).overhear .responder sampleAcquainted rfl
  have held := saw.hear .responder sampleAcquainted _ rfl (bob_holds ours)
  have concluded := held.act .responder (.act 1 .confirm) sampleAcquainted _
    (bob_trusts computed' checked)
  have posted := (concluded.post .responder "$7" 0 rfl).post .responder "$8" 0 rfl
  have saw := posted.overhear .requester sampleAcquainted rfl
  have finished := saw.hear .requester sampleAcquainted _ rfl (alice_trusts checked')
  have done := (finished.hear .requester sampleAcquainted _ rfl rfl).post .requester "$9" 0 rfl
  have cancelled := (done.act .responder (.cancel ⟨.timeout, "timed out"⟩ (by unfold Calm; decide))
    sampleAcquainted _ rfl).post .responder "$10" 0 rfl
  simp only [sampleConclusion, sampleResignation, goes, hears, List.replicate, List.map_cons,
    List.map_nil, List.cons_append, List.nil_append, List.foldl_cons, List.foldl_nil]
  refine ⟨_, done, rfl, List.mem_of_getElem? (i := 8) rfl, fun content => ?_, _, cancelled, rfl,
    rfl⟩
  simp [sampleCompared, Standing.turns, Standing.looks]

/-- What becomes of Alice's side in the talk, and if Bob gives up after it. -/
theorem sampleTalk_ends :
    (((sampleChat.run sampleTalk).sides .requester).verification.state = .done ∧
      (.requester, .done) ∈ sampleChat.log (sampleChat.run sampleTalk).events ∧
      ∀ content, (.responder, .cancel content) ∉
        sampleChat.log (sampleChat.run sampleTalk).events) ∧
    ((sampleChat.run (sampleTalk ++ sampleResignation)).sides .requester).verification.state =
        .done ∧
      (.requester, .done) ∈
        sampleChat.log (sampleChat.run (sampleTalk ++ sampleResignation)).events ∧
      (.responder, .cancel ⟨.timeout, "timed out"⟩) ∈
        sampleChat.log (sampleChat.run (sampleTalk ++ sampleResignation)).events := by
  obtain ⟨code, shown, -⟩ := sampleSecret.shortCode_ok (Machine.shortCodePurpose aliceRun.context
    true (sampleKeyPair 5).publicKey (sampleKeyPair 6).publicKey)
  obtain ⟨s, stands, state, told, kept, s', stands', state', log⟩ :=
    stands_sampleConclusion (stands_sampleExchange stands_sampleOpening shown)
  have ran (l : List Happening) : l.foldl sampleChat.after
      (sampleExchange.foldl sampleChat.after (sampleChat.run sampleOpening)) =
        sampleChat.run (sampleOpening ++ sampleExchange ++ l) := by
    rw [run, run, List.foldl_append, List.foldl_append]
  rw [ran] at stands stands'
  rw [← List.append_assoc] at stands'
  rw [sampleTalk, stands.log_eq, stands'.log_eq, stands.verification, stands'.verification, log]
  exact ⟨⟨state, told, kept⟩, state', List.mem_append_left _ told, List.mem_concat_self⟩

/-- Alice was done, which she finds in the room. If Bob gave up after it, she finds this. -/
theorem done_is_read_back_unless_cancelled_sample :
    (((sampleChat.run sampleTalk).sides .requester).verification.state = .done ∧
      (.requester, .done) ∈ sampleChat.log (sampleChat.run sampleTalk).events ∧
      (sampleChat.restored .requester ⟨[]⟩ (sampleHistory sampleTalk)
        sampleAcquainted).verification.state = .done) ∧
    ((sampleChat.run (sampleTalk ++ sampleResignation)).sides .requester).verification.state =
        .done ∧
      (.responder, .cancel ⟨.timeout, "timed out"⟩) ∈
        sampleChat.log (sampleChat.run (sampleTalk ++ sampleResignation)).events ∧
      (sampleChat.restored .requester ⟨[]⟩ (sampleHistory (sampleTalk ++ sampleResignation))
        sampleAcquainted).verification.state = .cancelled ⟨.timeout, "timed out"⟩ false := by
  obtain ⟨⟨done, told, kept⟩, done', -, cancelled⟩ := sampleTalk_ends
  have allowed : ∀ x ∈ sampleTalk, sampleChat.Allows x :=
    fun x mem => sampleTalk_allowed x (List.mem_append_left _ mem)
  obtain ⟨-, -, restored⟩ := done_is_read_back_unless_cancelled sampleChat allowed done ⟨[]⟩
    (sampleHistory_whole sampleTalk) sampleAcquainted
  obtain ⟨-, lost, -⟩ := done_is_read_back_unless_cancelled sampleChat sampleTalk_allowed done' ⟨[]⟩
    (sampleHistory_whole (sampleTalk ++ sampleResignation)) sampleAcquainted
  exact ⟨⟨done, told, (restored kept).trans (if_pos told)⟩, done', cancelled, lost _ cancelled⟩

/-- Alice was done and said so. When she reads that Bob gave up after it, she is not done any
more. -/
theorem done_is_lost_to_a_late_cancel :
    ∃ (l : List Happening) (history : List (RoomEvent × Answers)),
      (∀ x ∈ l, sampleChat.Allows x) ∧
        ((sampleChat.run l).sides .requester).verification.state = .done ∧
        (.requester, .done) ∈ sampleChat.log (sampleChat.run l).events ∧
        history.map (·.1) = (sampleChat.run l).events ∧
        (sampleChat.restored .requester ⟨[]⟩ history sampleAcquainted).verification.state =
          .cancelled ⟨.timeout, "timed out"⟩ false := by
  obtain ⟨-, done, told, cancelled⟩ := sampleTalk_ends
  have whole := sampleHistory_whole (sampleTalk ++ sampleResignation)
  exact ⟨_, _, sampleTalk_allowed, done, told, whole,
    (tracks_run sampleTalk_allowed).restored_of_cancelled done ⟨[]⟩ whole cancelled
      sampleAcquainted⟩

end

end Chat

end Peers

end DeviceVerification
