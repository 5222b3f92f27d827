import DeviceVerification.Proofs.Verification.Final

/-!
# Messages that are not delivered

Whether messages are delivered makes no difference to a verification. `attempted` takes what became
of the messages out of what an operation did, and every part of an operation commutes with it: what
is left is what the operation does where everything is delivered (`perform_delivering`). Two runs
that differ in their deliveries go through the same states (`deliveries_change_nothing`); only what
the actions of the user answer tells of a failure.
-/

namespace DeviceVerification

/-- The same answers, with every message delivered. -/
def Answers.delivering (a : Answers) : Answers := { a with delivery := fun _ => none }

/-- The answers of two surroundings that differ in nothing but what they deliver. -/
structure Answers.Alike (a a' : Answers) : Prop where
  keysOf : a.keysOf = a'.keysOf
  trusting : a.trusting = a'.trusting

theorem Answers.Alike.delivering_eq {a a' : Answers} (h : a.Alike a') :
    a.delivering = a'.delivering := by
  simp only [delivering, h.keysOf, h.trusting]

namespace Verification

open Progress

/-- An effect without what became of it. -/
def Effect.attempted : Effect → Effect
  | .send route step _ => .send route step none
  | .dismiss devices _ => .dismiss devices none
  | .trust keys outcome => .trust keys outcome

/-! ## Parts of an operation -/

namespace Progress

/-- What was done so far, without what became of the messages. -/
def attempted (p : Progress) : Progress := { p with effects := p.effects.map (·.attempted) }

variable (a : Answers) (p : Progress)

@[simp] theorem attempted_verification : p.attempted.verification = p.verification := rfl

@[simp] theorem attempted_source : p.attempted.source = p.source := rfl

/-- Without what became of the messages, none has failed. -/
@[simp] theorem failure?_attempted : p.attempted.failure? = none := by
  have kept : ∀ l : List Effect, (l.map (·.attempted)).foldl
      (fun last e => e.sendFailure?.or last) none = none := by
    intro l
    induction l with
    | nil => rfl
    | cons e rest ih => cases e <;> exact ih
  exact kept p.effects

theorem attempted_update (f : Verification → Verification) :
    (p.update f).attempted = p.attempted.update f := rfl

theorem attempted_enter (next : State) : (p.enter next).attempted = p.attempted.enter next := rfl

theorem attempted_send (step : Step) :
    (p.send a step).attempted = p.attempted.send a.delivering step := by
  simp [send, attempted, Effect.attempted, Answers.delivering]

theorem attempted_cancel (content : CancelContent) :
    (p.cancel a content).attempted = p.attempted.cancel a.delivering content := by
  simp only [cancel, apply_ite attempted, attempted_send, attempted_enter]
  rfl

theorem attempted_choose (device : String) :
    (p.choose a device).attempted = p.attempted.choose a.delivering device := by
  simp only [choose, apply_ite attempted, attempted_update, attempted_verification]
  simp [attempted, Effect.attempted, update, Answers.delivering]

theorem attempted_complete (keys : List VerifiableKey) :
    (p.complete a keys).attempted = p.attempted.complete a.delivering keys := by
  unfold complete
  have same : a.delivering.trusting = a.trusting := rfl
  simp only [attempted_verification, same]
  cases a.trusting p.verification.theirUser keys with
  | recorded =>
    simp only [attempted_send, attempted_update]
    simp [attempted, Effect.attempted]
  | refused e =>
    simp only [attempted_cancel]
    simp [attempted, Effect.attempted]
  | pending => simp [attempted, Effect.attempted, update]

theorem attempted_sends (steps : List Step) :
    (steps.foldl (fun p step => p.send a step) p).attempted =
      steps.foldl (fun p step => p.send a.delivering step) p.attempted := by
  induction steps generalizing p with
  | nil => rfl
  | cons step steps ih => rw [List.foldl_cons, List.foldl_cons, ih, attempted_send]

theorem attempted_follow (turn : Sas.Turn) :
    (p.follow a turn).attempted = p.attempted.follow a.delivering turn := by
  unfold follow
  simp only
  rw [← attempted_sends]
  split
  · rfl
  · rw [attempted_complete]
  · rw [attempted_cancel]

theorem attempted_run (turn : Sas.Machine × Sas.Turn) :
    (p.run a turn).attempted = p.attempted.run a.delivering turn := by
  unfold run
  rw [attempted_follow, attempted_update]

theorem attempted_runDrawn (d : Sas.Machine.Drawn) :
    (p.runDrawn a d).attempted = p.attempted.runDrawn a.delivering d := by
  unfold runDrawn
  rw [attempted_run]
  rfl

/-! ## Steps of the counterpart -/

theorem attempted_abort (content : CancelContent) :
    (p.abort content).attempted = p.attempted.abort content := by
  simp only [abort, apply_ite attempted, attempted_enter]
  rfl

theorem attempted_yield : p.yieldToOtherDevice.attempted = p.attempted.yieldToOtherDevice := by
  simp only [yieldToOtherDevice, apply_ite attempted, attempted_enter]
  rfl

theorem attempted_receiveReady (content : ReadyContent) :
    (p.receiveReady a content).attempted = p.attempted.receiveReady a.delivering content := by
  simp only [receiveReady, apply_ite attempted, attempted_cancel, attempted_enter,
    attempted_update, attempted_choose]
  rfl

theorem attempted_adopt (content : StartContent) :
    (p.adopt a content).attempted = p.attempted.adopt a.delivering content := by
  have update (f : Verification → Verification) :
      (p.attempted.update f).verification.settings = (p.update f).verification.settings := rfl
  simp only [adopt, attempted_verification, update]
  cases p.verification.context? with
  | none => rfl
  | some context =>
    cases made : Sas.Machine.theirStart p.verification.nextGeneration context
        (p.update fun v => { v with nextGeneration := p.verification.nextGeneration + 1
          }).verification.settings content with
    | ok machine => simp only [made, attempted_enter, attempted_update]
    | error reason => simp only [made, attempted_cancel, attempted_update]

theorem attempted_receiveStart (content : StartContent) :
    (p.receiveStart a content).attempted = p.attempted.receiveStart a.delivering content := by
  simp only [receiveStart, apply_ite attempted, attempted_adopt, attempted_choose,
    attempted_cancel]
  rfl

theorem attempted_receiveSecondStart (content : StartContent) :
    (p.receiveSecondStart a content).attempted =
      p.attempted.receiveSecondStart a.delivering content := by
  simp only [receiveSecondStart, apply_ite attempted, attempted_adopt, attempted_update,
    attempted_cancel]
  rfl

theorem attempted_withMachine (step : String) {f g : Sas.Machine → Progress → Progress}
    (same : ∀ m, (f m p).attempted = g m p.attempted) :
    (p.withMachine a step f).attempted = p.attempted.withMachine a.delivering step g := by
  unfold withMachine
  rw [attempted_verification]
  split
  · exact same _
  · rw [attempted_cancel]

theorem attempted_receiveMac (content : MacContent) :
    (p.receiveMac a content).attempted = p.attempted.receiveMac a.delivering content := by
  unfold receiveMac
  have known : theirKeys a.delivering p.verification = theirKeys a p.verification := rfl
  rw [attempted_verification, known]
  split
  · rw [attempted_cancel]
  · exact attempted_withMachine a p _ fun m => attempted_run a p _

theorem attempted_receiveCancel (content : CancelContent) :
    (p.receiveCancel content).attempted = p.attempted.receiveCancel content := by
  simp only [receiveCancel, apply_ite attempted, attempted_enter]
  rfl

theorem attempted_apply (step : Step) :
    (p.apply a step).attempted = p.attempted.apply a.delivering step := by
  unfold Progress.apply
  simp only [attempted_verification]
  split
  · rw [attempted_receiveCancel]
  · rw [attempted_receiveReady]
  · rw [attempted_receiveStart]
  · rw [attempted_receiveStart]
  · rw [attempted_receiveSecondStart]
  · exact attempted_withMachine a p _ fun m => attempted_runDrawn a p _
  · exact attempted_withMachine a p _ fun m => attempted_run a p _
  · rw [attempted_receiveMac]
  · rw [attempted_update]
  · rw [attempted_enter, attempted_update]
  · simp only [apply_ite attempted, attempted_update, attempted_cancel]
    rfl
  · rw [attempted_cancel]

theorem attempted_receive (sender : Option String) (step : Step) :
    (p.receive a sender step).attempted = p.attempted.receive a.delivering sender step := by
  simp only [receive, apply_ite attempted, attempted_apply, attempted_update,
    attempted_verification]
  rfl

theorem attempted_replay (step : Step) :
    (p.replay step).attempted = p.attempted.replay step := by
  cases step with
  | ready | done | cancel =>
    simp only [Progress.replay, apply_ite attempted, attempted_enter, attempted_update]
    rfl
  | start | accept | key | mac =>
    simp only [Progress.replay, apply_ite attempted, attempted_update]
    rfl

theorem attempted_finishReplay : p.finishReplay.attempted = p.attempted.finishReplay := by
  simp only [finishReplay, apply_ite attempted, attempted_enter]
  rfl

end Progress

/-! ## Operations -/

/-- What an operation comes to where everything is delivered: the same, except that an action of
the user that reported a failed message may answer something else. -/
structure Outcome.Delivered (o delivered : Outcome) : Prop where
  verification : delivered.verification = o.verification
  source : delivered.source = o.source
  effects : delivered.effects = o.effects.map (·.attempted)
  reply : delivered.reply = o.reply ∨ ∃ e, o.reply = .refused (.transport e)

namespace Progress

variable (a : Answers) (p : Progress)

/-- Operations that nobody asked for tell nothing of a failure. -/
theorem delivered_silent : p.silent.Delivered p.attempted.silent := ⟨rfl, rfl, rfl, .inl rfl⟩

theorem delivered_refuse (e : ActionError) : (p.refuse e).Delivered (p.attempted.refuse e) :=
  ⟨rfl, rfl, rfl, .inl rfl⟩

theorem delivered_report : p.report.Delivered p.attempted.report := by
  refine ⟨rfl, rfl, rfl, ?_⟩
  cases held : p.verification.held with
  | true => simp [report, held]
  | false =>
    cases failed : p.failure? with
    | none => simp [report, held, failed]
    | some e => exact .inr ⟨e, by simp [report, held, failed]⟩

theorem delivered_ready : (p.ready a).Delivered (p.attempted.ready a.delivering) := by
  unfold Progress.ready
  simp only [attempted_verification, ← attempted_cancel, ← attempted_enter, ← attempted_send,
    failure?_attempted]
  split
  · split
    · split
      · rename_i e failed
        exact ⟨rfl, rfl, rfl, .inr ⟨e, rfl⟩⟩
      · exact delivered_refuse _ _
    · exact delivered_report _
  · exact delivered_refuse _ _

theorem delivered_start (method : Method) :
    (p.start a method).Delivered (p.attempted.start a.delivering method) := by
  unfold Progress.start
  simp only [attempted_verification, ← attempted_update, ← attempted_send]
  split
  · split
    · split
      · exact delivered_refuse _ _
      · exact delivered_report _
    · exact delivered_refuse _ _
  · exact delivered_refuse _ _

theorem delivered_act (generation : Nat) (action : SasAction) :
    (p.act a generation action).Delivered (p.attempted.act a.delivering generation action) := by
  have both : bothKeys a.delivering p.verification = bothKeys a p.verification := rfl
  unfold Progress.act
  simp only [attempted_verification]
  split
  · split
    · split
      · unfold acceptStart
        rw [attempted_source]
        split
        · rw [← attempted_runDrawn]
          exact delivered_report _
        · exact delivered_refuse _ _
      · unfold confirmCodes
        rw [attempted_verification, both]
        split
        · exact delivered_refuse _ _
        · split
          · rw [← attempted_run]
            exact delivered_report _
          · exact delivered_refuse _ _
      · unfold rejectCodes
        split
        · rw [← attempted_follow]
          exact delivered_report _
        · exact delivered_refuse _ _
    · exact delivered_refuse _ _
  · exact delivered_refuse _ _
  · exact delivered_refuse _ _

end Progress

variable (a : Answers) (op : Operation) (v : Verification) (source : KeySource)

/-- **What an operation does, it does whatever is delivered.** -/
theorem perform_delivering :
    (perform a op v source).Delivered (perform a.delivering op v source) := by
  unfold perform
  simp only
  split
  · exact ⟨rfl, rfl, rfl, .inl rfl⟩
  · -- nothing was attempted before an operation, so its parts start from the same progress
    cases op with
    | ready => exact delivered_ready a (begin v source)
    | start method => exact delivered_start a (begin v source) method
    | act generation action => exact delivered_act a (begin v source) generation action
    | cancel content =>
      have same := delivered_report ((begin v source).cancel a content)
      rw [attempted_cancel] at same
      exact same
    | abort content =>
      have same := delivered_silent ((begin v source).abort content)
      rw [attempted_abort] at same
      exact same
    | yieldToOtherDevice =>
      have same := delivered_silent (begin v source).yieldToOtherDevice
      rw [attempted_yield] at same
      exact same
    | receive sender step =>
      have same := delivered_silent ((begin v source).receive a sender step)
      rw [attempted_receive] at same
      exact same
    | replay step =>
      have same := delivered_silent ((begin v source).replay step)
      rw [attempted_replay] at same
      exact same
    | finishReplay =>
      have same := delivered_silent (begin v source).finishReplay
      rw [attempted_finishReplay] at same
      exact same

/-- Only actions answer with an error. -/
theorem reply_perform_of_unasked (unasked : op.isLocal = false) (e : ActionError) :
    (perform a op v source).reply ≠ .refused e := by
  have silent (p : Progress) : p.silent.reply ≠ .refused e := by
    unfold Progress.silent
    cases p.verification.held <;> simp
  unfold perform
  simp only
  split
  · exact nofun
  · cases op with
    | ready | start | act | cancel | abort => cases unasked
    | yieldToOtherDevice | receive | replay | finishReplay => exact silent _

/-! ## Runs -/

/-- The same operation on the same verification, which came to the same. Only what an action answers
can tell the two apart, and then it reports a failed message in one of them. -/
structure Record.Same (r r' : Record) : Prop where
  before : r.before = r'.before
  op : r.op = r'.op
  verification : r.outcome.verification = r'.outcome.verification
  source : r.outcome.source = r'.outcome.source
  attempted : r.outcome.effects.map (·.attempted) = r'.outcome.effects.map (·.attempted)
  reply : r.outcome.reply = r'.outcome.reply ∨
    r.op.isLocal = true ∧ ∃ e, r.outcome.reply = .refused (.transport e) ∨
      r'.outcome.reply = .refused (.transport e)

/-- Two runs that went through the same. -/
structure Run.Same (r r' : Run) : Prop where
  verification : r.verification = r'.verification
  source : r.source = r'.source
  log : List.Forall₂ Record.Same r.log r'.log

/-- The same operation, in surroundings that differ in their deliveries. -/
def SameEvent (e e' : Operation × Answers) : Prop := e.1 = e'.1 ∧ e.2.Alike e'.2

variable {a op v source}

/-- An operation comes to the same in surroundings that differ in their deliveries. -/
theorem same_perform {a' : Answers} (alike : a.Alike a') :
    Record.Same ⟨v, op, a, perform a op v source⟩ ⟨v, op, a', perform a' op v source⟩ := by
  have first := perform_delivering a op v source
  have second := perform_delivering a' op v source
  rw [← alike.delivering_eq] at second
  refine ⟨rfl, rfl, first.verification.symm.trans second.verification,
    first.source.symm.trans second.source, first.effects.symm.trans second.effects, ?_⟩
  cases asked : op.isLocal with
  | false =>
    have told (a : Answers) (e : TransportError) :
        (perform a op v source).reply ≠ .refused (.transport e) :=
      reply_perform_of_unasked a op v source asked _
    have reply := first.reply.resolve_right fun ⟨e, failed⟩ => told a e failed
    have reply' := second.reply.resolve_right fun ⟨e, failed⟩ => told a' e failed
    exact .inl (reply.symm.trans reply')
  | true =>
    rcases first.reply with reply | ⟨e, failed⟩
    · rcases second.reply with reply' | ⟨e, failed⟩
      · exact .inl (reply.symm.trans reply')
      · exact .inr ⟨rfl, e, .inr failed⟩
    · exact .inr ⟨rfl, e, .inl failed⟩

theorem Run.Same.step {r r' : Run} (same : r.Same r') {e e' : Operation × Answers}
    (event : SameEvent e e') : (r.step e).Same (r'.step e') := by
  obtain ⟨v, source, log⟩ := r
  obtain ⟨_, _, log'⟩ := r'
  obtain ⟨rfl, rfl, log⟩ := same
  obtain ⟨op, a⟩ := e
  obtain ⟨_, a'⟩ := e'
  obtain ⟨rfl, alike⟩ := event
  have last : Record.Same ⟨v, op, a, perform a op v source⟩ ⟨v, op, a', perform a' op v source⟩ :=
    same_perform alike
  exact ⟨last.verification, last.source, List.rel_append log (.cons last .nil)⟩

theorem Run.Same.steps {r r' : Run} (start : r.Same r')
    {events events' : List (Operation × Answers)}
    (same : List.Forall₂ SameEvent events events') :
    (r.steps events).Same (r'.steps events') := by
  unfold Run.steps
  induction same generalizing r r' with
  | nil => exact start
  | cons event rest ih => exact ih (start.step event)

/-- **Failed messages change nothing.** Two runs from one verification that perform the same
operations, in surroundings that may deliver different messages but otherwise answer alike, go
through the same verifications, draw the same key pairs, have the same keys trusted and hand out the
same steps in the same order. Only what an action answers may differ, where one of the two runs
reports a failed message. -/
theorem deliveries_change_nothing {events events' : List (Operation × Answers)}
    (same : List.Forall₂ SameEvent events events') (v : Verification) (source : KeySource) :
    ((Run.begin v source).steps events).Same ((Run.begin v source).steps events') :=
  Run.Same.steps ⟨rfl, rfl, .nil⟩ same

/-! ### Bob is not heard -/

/-- The surroundings of the sample, which lose every message. -/
def sampleLossy : Answers :=
  { sampleAnswers with delivery := fun _ => some (.delivery "unreachable") }

/-- What happens to Bob until he accepts the start of Alice. -/
def sampleOperations (a : Answers) : List (Operation × Answers) :=
  [(.ready, a), (.receive (some "ALICE") (.start (Sas.Settings.default.startContent "ALICE")), a),
    (.act 1 .accept, a)]

/-- Bob is told of both messages that nobody received, and goes on as if they had arrived. -/
theorem deliveries_change_nothing_sample :
    let lost : Reply := .refused (.transport (.delivery "unreachable"))
    let source : KeySource := ⟨[.ok (Sas.sampleKeyPair 6)]⟩
    let run := fun a => (Run.begin sampleAsked source).steps (sampleOperations a)
    ((run sampleAnswers).log.map (·.outcome.reply) = [.done, .done, .done] ∧
      (run sampleLossy).log.map (·.outcome.reply) = [lost, .done, lost]) ∧
    (run sampleAnswers).Same (run sampleLossy) := by
  have alike : sampleAnswers.Alike sampleLossy := ⟨rfl, rfl⟩
  have same : List.Forall₂ SameEvent (sampleOperations sampleAnswers)
      (sampleOperations sampleLossy) :=
    .cons ⟨rfl, alike⟩ (.cons ⟨rfl, alike⟩ (.cons ⟨rfl, alike⟩ .nil))
  refine ⟨⟨?_, ?_⟩, deliveries_change_nothing same sampleAsked _⟩
  · decide +kernel
  · decide +kernel

end Verification

end DeviceVerification
