import Mathlib.Data.List.Induction
import DeviceVerification.Proofs.Verification.Choice
import DeviceVerification.Proofs.Verification.Trust

/-!
# What a history amounts to

A verification that is picked up from its room takes the steps of the history in their order, its
own ones and those of the counterpart, and then settles. Three flags are all that it keeps of them,
and they are set in several places; yet as long as no step ends the verification they tell which
steps were there (`Recounts`), so what becomes of it can be told from the history alone
(`history_is_summed_up`). No user acts in a history, so no machine goes beyond the start that it was
made for (`Unengaged`), and nothing is ever trusted.
-/

namespace DeviceVerification.Verification

open Progress

variable {a : Answers} {v v' w : Verification} {source : KeySource} {op : Operation} {o : Outcome}
  {turn : Sas.Turn} {effects : List Effect} {content : StartContent}

/-! ## Histories -/

/-- A step in the history of a room. -/
inductive PastStep where
  | own (step : Step)
  | their (step : Step)
  deriving DecidableEq

namespace PastStep

/-- How a step of the history is taken. The messages of a room name no device. -/
def operation : PastStep → Operation
  | .own step => .replay step
  | .their step => .receive none step

/-- Whether it is an own step of a run. -/
def isOwnRun : PastStep → Bool
  | .own step => isRunStep step
  | .their _ => false

end PastStep

/-- The run once a history was taken, each step under its own answers of the surroundings. -/
def Run.retrace (r : Run) (history : List (PastStep × Answers)) : Run :=
  r.steps (history.map fun past => (past.1.operation, past.2))

/-- The run of a request that nobody has answered, once a history was taken. -/
def retraced (own : Identity) (settings : Sas.Settings) (route : Route) (request : Request)
    (source : KeySource) (history : List (PastStep × Answers)) : Run :=
  (Run.begin (ofRequest own settings route request) source).retrace history

theorem Run.retrace_concat (r : Run) (history : List (PastStep × Answers))
    (past : PastStep × Answers) :
    r.retrace (history ++ [past]) = (r.retrace history).step (past.1.operation, past.2) := by
  rw [retrace, List.map_append, List.map_singleton, steps_concat]
  rfl

/-! ## Nobody acts -/

/-- Nobody acted on our side: the trust store was not asked, our side is not done with a run, and
no machine goes beyond the counterpart's start. -/
structure Unengaged (v : Verification) : Prop where
  free : v.held = false
  unfinished : ∀ isOwn, v.state ≠ .waitForDone isOwn
  unaccepted : ∀ m, v.machine = some m → m.state = .theirStart

namespace Unengaged

theorem enter (h : Unengaged v) {s : State} (other : ∀ isOwn, s ≠ .waitForDone isOwn) :
    Unengaged (v.enter s) where
  free := by rw [enter_held, h.free]
  unfinished := by rwa [enter_state]
  unaccepted m found := by
    rw [enter_machine] at found
    split at found
    · obtain ⟨k, machine, rfl⟩ := Option.map_eq_some_iff.1 found
      exact h.unaccepted k machine
    · exact h.unaccepted m found

theorem congr (h : Unengaged v) (held : v'.held = v.held) (state : v'.state = v.state)
    (machine : v'.machine = v.machine) : Unengaged v' where
  free := by rw [held, h.free]
  unfinished := by
    rw [state]
    exact h.unfinished
  unaccepted := by
    rw [machine]
    exact h.unaccepted

theorem counted (h : Unengaged v) (op : Operation) : Unengaged (v.counted op) :=
  h.congr (counted_held v op) (counted_state v op) (counted_machine v op)

/-- No start of ours waits for its answer. -/
theorem ownStartPending_eq (h : Unengaged v) : ownStartPending v = false := by
  unfold ownStartPending
  cases machine : v.machine with
  | none => rfl
  | some m => simp [h.unaccepted m machine]

end Unengaged

theorem unengaged_ofRequest (own : Identity) (settings : Sas.Settings) (route : Route)
    (request : Request) : Unengaged (ofRequest own settings route request) where
  free := rfl
  unfinished isOwn := by
    unfold ofRequest
    cases request.isOwn <;> exact nofun
  unaccepted m found := by cases found

theorem Adopted.unengaged (h : Adopted v content v' effects) (before : Unengaged v) :
    Unengaged v' := by
  cases h with
  | stranger => exact before
  | unagreed =>
    have drawn : Unengaged { v with nextGeneration := v.nextGeneration + 1 } :=
      before.congr rfl rfl rfl
    exact drawn.enter nofun
  | @adopted context m known made =>
    obtain rfl := Sas.Machine.eq_init_of_theirStart made
    refine ⟨(enter_held _ _).trans before.free, ?_, ?_⟩
    · rw [enter_state]
      exact nofun
    · intro k found
      rw [enter_machine] at found
      obtain rfl := Option.some.inj found
      rfl

theorem Adopted.flags_eq (h : Adopted v content v' effects) :
    v'.sasLost = v.sasLost ∧ v'.ownDone = v.ownDone ∧ v'.theirDone = v.theirDone := by
  cases h with
  | stranger => exact ⟨rfl, rfl, rfl⟩
  | adopted | unagreed => simp

/-- A step of a run that comes in for a machine whose start was not accepted is refused. -/
theorem Feeds.cancels_of_unaccepted {generation : Nat} {m : Sas.Machine} {input : Sas.Input}
    {d : Sas.Machine.Drawn} {sender : Option String} {step : Step}
    (feeds : Feeds a v generation (.receive sender step) input) (change : m.Change source input d)
    (state : m.state = .theirStart) : d.machine = m ∧ ∃ reason, d.turn = .cancel reason := by
  cases feeds with
  | accepted =>
    cases change with
    | acceptedUnexpected => exact ⟨rfl, _, rfl⟩
    | acceptedUnoffered other | acceptedUndrawn other | accepted other =>
      cases state.symm.trans other
  | key =>
    cases change with
    | keyUnexpected => exact ⟨rfl, _, rfl⟩
    | keyMismatched _ other | starterKeyInvalid _ other | starterKey _ other
    | accepterKeyInvalid _ other | accepterKey _ other => cases state.symm.trans other
  | mac =>
    cases change with
    | macUnexpected => exact ⟨rfl, _, rfl⟩
    | macJudged other => cases state.symm.trans other
    | macHeld comparison =>
      rw [state] at comparison
      cases comparison

/-! ## One step of the history -/

/-- What a step of the history does: the flags take note of it, unless the verification ends. -/
structure Notes (v : Verification) (past : PastStep) (o : Outcome) : Prop where
  unengaged : Unengaged o.verification
  plain : Plain o.effects
  sasLost : o.verification.isTerminal = false →
    o.verification.sasLost = (v.sasLost || past.isOwnRun)
  ownDone : o.verification.isTerminal = false →
    o.verification.ownDone = (v.ownDone || decide (.own .done = past))
  theirDone : o.verification.isTerminal = false →
    o.verification.theirDone = (v.theirDone || decide (.their .done = past))

namespace Notes

variable {past : PastStep} {s : State} {reply : Reply}

/-- A verification that ends has nothing to note any more. -/
theorem of_ends (unengaged : Unengaged v') (plain : Plain effects)
    (terminal : v'.isTerminal = true) : Notes v past ⟨v', source, effects, reply⟩ where
  unengaged := unengaged
  plain := plain
  sasLost running := by cases running.symm.trans terminal
  ownDone running := by cases running.symm.trans terminal
  theirDone running := by cases running.symm.trans terminal

/-- A step that no flag is about leaves them as they are. -/
theorem of_same (unengaged : Unengaged v') (plain : Plain effects)
    (flags : v'.sasLost = v.sasLost ∧ v'.ownDone = v.ownDone ∧ v'.theirDone = v.theirDone)
    (ownRun : past.isOwnRun = false) (own : .own .done ≠ past) (their : .their .done ≠ past) :
    Notes v past ⟨v', source, effects, reply⟩ where
  unengaged := unengaged
  plain := plain
  sasLost _ := by simp [flags.1, ownRun]
  ownDone _ := by simp [flags.2.1, own]
  theirDone _ := by simp [flags.2.2, their]

end Notes

/-- What one of our own steps does. -/
theorem Transition.notes_own {step : Step} (t : Transition a v source (.replay step) o)
    (h : Unengaged v) : Notes v (.own step) o := by
  cases t with
  | ended terminal => exact .of_ends h plain_nil terminal
  | refused action => cases action
  | cancels running why => cases why
  | turn state machine feeds => cases feeds
  | replayedReady =>
    exact .of_same (h.enter (by simp)) plain_nil (by simp) rfl (by simp) (by simp)
  | replayedLate => exact .of_same h plain_nil ⟨rfl, rfl, rfl⟩ rfl (by simp) (by simp)
  | replayedDone =>
    refine ⟨h.congr rfl rfl rfl, plain_nil, ?_, ?_, ?_⟩
    · simp [PastStep.isOwnRun, isRunStep, Step.kind]
    · simp
    · simp
  | replayedCancel => exact .of_ends (h.enter (by simp)) plain_nil (enter_isTerminal _ _)
  | replayedRun running run =>
    have other : .done ≠ step := by
      rintro rfl
      cases run
    refine ⟨⟨h.free, h.unfinished, ?_⟩, plain_nil, ?_, ?_, ?_⟩
    · intro m found
      obtain ⟨k, machine, rfl⟩ := Option.map_eq_some_iff.1 found
      exact h.unaccepted k machine
    · simp [PastStep.isOwnRun, run]
    · simp [release, other]
    · simp [release]

/-- What a step of the counterpart does. -/
theorem Transition.notes_their {step : Step} (t : Transition a v source (.receive none step) o)
    (h : Unengaged v) : Notes v (.their step) o := by
  have none : ownStartPending v = false := h.ownStartPending_eq
  cases t with
  | ended terminal => exact .of_ends h plain_nil terminal
  | refused action => cases action
  | cancels => exact .of_ends (h.enter (by simp)) (plain_send (by simp)) (enter_isTerminal _ _)
  | @turn _ m input d v' effects reply state machine feeds change followed =>
    obtain ⟨same, reason, cancels⟩ :=
      feeds.cancels_of_unaccepted change (h.unaccepted m machine)
    rw [same, cancels] at followed
    have unmoved : { v with machine := some m } = v := by rw [← machine]
    rw [unmoved] at followed
    cases followed with
    | proceed handed verdict | recorded handed verdict | refused handed verdict
    | pending handed verdict => cases verdict
    | cancelled handed =>
      exact .of_ends (h.enter (by simp)) ((handed.plain (by simp [Sas.Turn.cancel])).append
        (plain_send (by simp))) (enter_isTerminal _ _)
  | ignored running deaf =>
    have other : .done ≠ step := by
      rintro rfl
      refine deaf ⟨?_, ?_⟩
      · simp [isStray, Step.fromDevice?]
      · simp [isRunStep, Step.kind]
    exact .of_same h plain_nil ⟨rfl, rfl, rfl⟩ rfl (by simp) (by simpa using other)
  | answeredElsewhere | cancelledByThem =>
    exact .of_ends (h.enter (by simp)) plain_nil (enter_isTerminal _ _)
  | @receivedReady _ content _ _ hears state some dismissed =>
    have chose : Unengaged { chosen content.fromDevice v with
        methods := commonMethods v.methods content.methods } := h.congr rfl rfl rfl
    exact .of_same (chose.enter (by simp)) dismissed.plain (by simp [chosen]) rfl (by simp)
      (by simp)
  | @receivedStart _ content _ _ _ _ _ hears state supported met adopted =>
    cases met with
    | known =>
      exact .of_same (adopted.unengaged h) adopted.plain adopted.flags_eq rfl (by simp) (by simp)
    | chosen unknown dismissed =>
      have chose : Unengaged (chosen content.fromDevice v) := h.congr rfl rfl rfl
      exact .of_same (adopted.unengaged chose) (dismissed.plain.append adopted.plain)
        adopted.flags_eq rfl (by simp) (by simp)
  | keptStart hears state pending => cases none.symm.trans pending
  | lostStart hears state pending => cases none.symm.trans pending
  | doneFirst =>
    refine ⟨h.congr rfl rfl rfl, plain_nil, ?_, ?_, ?_⟩
    · simp [PastStep.isOwnRun]
    · simp
    · simp
  | doneLast hears state => exact absurd state (h.unfinished _)

/-- What a step of the history does. -/
theorem notes_perform (h : Unengaged v) (a : Answers) (past : PastStep) (source : KeySource) :
    Notes v past (perform a past.operation v source) := by
  have t : Transition a (v.counted past.operation) source past.operation
      (perform a past.operation v source) := transition_of_perform h.free past.operation
  have counted := h.counted past.operation
  have notes : Notes (v.counted past.operation) past (perform a past.operation v source) := by
    cases past with
    | own step => exact t.notes_own counted
    | their step => exact t.notes_their counted
  refine ⟨notes.unengaged, notes.plain, ?_, ?_, ?_⟩
  · simpa using notes.sasLost
  · simpa using notes.ownDone
  · simpa using notes.theirDone

/-! ## The whole history -/

/-- The flags of a verification tell which steps a history has. -/
structure Tells (past : List PastStep) (v : Verification) : Prop where
  sasLost : v.sasLost = past.any PastStep.isOwnRun
  ownDone : v.ownDone = decide (.own .done ∈ past)
  theirDone : v.theirDone = decide (.their .done ∈ past)

theorem Tells.sasLost_iff {past : List PastStep} (h : Tells past v) :
    v.sasLost = true ↔ ∃ e ∈ past, e.isOwnRun = true := by
  rw [h.sasLost, List.any_eq_true]

/-- What holds of a run that took a history and nothing else: nobody acted, and as long as it goes
on it tells which steps were there. -/
structure Recounts (past : List PastStep) (r : Run) : Prop where
  unengaged : Unengaged r.verification
  plain : Plain r.effects
  tells : r.verification.isTerminal = false → Tells past r.verification

/-- Every step of the history is taken note of. -/
theorem Recounts.step {past : List PastStep} {r : Run} (h : Recounts past r) (e : PastStep)
    (a : Answers) : Recounts (past ++ [e]) (r.step (e.operation, a)) := by
  have notes := notes_perform h.unengaged a e r.source
  refine ⟨notes.unengaged, ?_, fun running => ?_⟩
  · rw [Run.step, Run.effects_extend]
    exact h.plain.append notes.plain
  · have earlier : r.verification.isTerminal = false := by
      by_contra terminal
      obtain ⟨reply, same⟩ :=
        perform_of_terminal (eq_true_of_ne_false terminal) a e.operation r.source
      rw [Run.step, same] at running
      exact terminal running
    have told := h.tells earlier
    refine ⟨(notes.sasLost running).trans ?_, (notes.ownDone running).trans ?_,
      (notes.theirDone running).trans ?_⟩
    · simp [told.sasLost]
    · simp [told.ownDone]
    · simp [told.theirDone]

theorem recounts_retraced (own : Identity) (settings : Sas.Settings) (route : Route)
    (request : Request) (source : KeySource) (history : List (PastStep × Answers)) :
    Recounts (history.map (·.1)) (retraced own settings route request source history) := by
  induction history using List.reverseRecOn with
  | nil =>
    exact ⟨unengaged_ofRequest own settings route request, plain_nil, fun _ => ⟨rfl, rfl, rfl⟩⟩
  | append_singleton history past ih =>
    rw [retraced, Run.retrace_concat, List.map_append]
    exact ih.step past.1 past.2

/-! ## The end of the history -/

/-- The run of a request that nobody has answered, once a history was taken to its end. -/
def restored (own : Identity) (settings : Sas.Settings) (route : Route) (request : Request)
    (source : KeySource) (history : List (PastStep × Answers)) (a : Answers) : Run :=
  (retraced own settings route request source history).step (.finishReplay, a)

theorem Recounts.finish_of_lost {past : List PastStep} {r : Run} (h : Recounts past r)
    (running : r.verification.isTerminal = false)
    (lost : ∃ e ∈ past, e.isOwnRun = true) (a : Answers) :
    (r.step (.finishReplay, a)).verification.state =
      (if .own .done ∈ past then if .their .done ∈ past then .done else .waitForDone true
        else .undefined) := by
  have told := h.tells running
  obtain ⟨reply, same⟩ := perform_finishReplay a r.verification r.source
  rw [if_pos ⟨h.unengaged.free, running, told.sasLost_iff.2 lost⟩, told.ownDone, told.theirDone]
    at same
  rw [Run.step, Run.extend, same, enter_state]
  by_cases ours : .own .done ∈ past
  · by_cases theirs : .their .done ∈ past
    · simp [ours, theirs, settled]
    · simp [ours, theirs, settled]
  · simp [ours, settled]

theorem Recounts.finish_of_kept {past : List PastStep} {r : Run} (h : Recounts past r)
    (running : r.verification.isTerminal = false)
    (kept : ∀ e ∈ past, e.isOwnRun = false) (a : Answers) :
    (r.step (.finishReplay, a)).verification = r.verification := by
  have unlost : r.verification.sasLost = false := by
    rw [(h.tells running).sasLost]
    exact List.any_eq_false.2 fun e mem => by simp [kept e mem]
  obtain ⟨reply, same⟩ := finishReplay_of_kept unlost a r.source
  rw [Run.step, same]
  rfl

/-- Nothing is said at the end of a history. -/
theorem Run.effects_finishReplay (r : Run) (a : Answers) :
    (r.step (.finishReplay, a)).effects = r.effects := by
  obtain ⟨reply, same⟩ := perform_finishReplay a r.verification r.source
  rw [step, effects_extend, same, List.append_nil]

theorem Recounts.plain_finish {past : List PastStep} {r : Run} (h : Recounts past r)
    (a : Answers) : Plain (r.step (.finishReplay, a)).effects := by
  rw [Run.effects_finishReplay]
  exact h.plain

/-- A step of a run that comes after one of ours is counted, and does nothing. -/
theorem Recounts.step_of_lost {past : List PastStep} {r : Run} (h : Recounts past r)
    (lost : ∃ e ∈ past, e.isOwnRun = true) {step : Step} (run : isRunStep step = true)
    (a : Answers) : ∃ n, (r.step ((PastStep.their step).operation, a)).verification =
      { r.verification with activity := n } := by
  cases terminal : r.verification.isTerminal with
  | true =>
    obtain ⟨reply, same⟩ := perform_of_terminal terminal a (.receive none step) r.source
    exact ⟨_, congrArg Outcome.verification same⟩
  | false =>
    have flag := (h.tells terminal).sasLost_iff.2 lost
    obtain ⟨n, reply, same⟩ := perform_of_lost a r.source none flag run
    exact ⟨n, congrArg Outcome.verification same⟩

/-- **A history amounts to what was done in it.** A verification takes the steps of a history, ours
and the counterpart's in any order, and comes to its end. If no step ended it, then this is what
becomes of it: where one of our own steps of a run was among them it is done if both sides said so,
waits for the counterpart if only our own done step was there, and is undefined otherwise; where
there was none, the end of the history changes nothing. Trust is never asked for. Once one of our
own steps of a run was taken, those of the counterpart are counted and do nothing else. -/
theorem history_is_summed_up (own : Identity) (settings : Sas.Settings) (route : Route)
    (request : Request) (source : KeySource) (history : List (PastStep × Answers)) (a : Answers)
    (running :
      (retraced own settings route request source history).verification.isTerminal = false) :
    ((∃ e ∈ history.map (·.1), e.isOwnRun = true) →
        (restored own settings route request source history a).verification.state =
          if .own .done ∈ history.map (·.1) then
            if .their .done ∈ history.map (·.1) then .done else .waitForDone true
          else .undefined) ∧
      ((∀ e ∈ history.map (·.1), e.isOwnRun = false) →
        (restored own settings route request source history a).verification =
          (retraced own settings route request source history).verification) ∧
      (∀ e ∈ (restored own settings route request source history a).effects,
        e.isTrust = false) ∧
      ∀ (before : List (PastStep × Answers)) step answers,
        (∃ e ∈ before.map (·.1), e.isOwnRun = true) → isRunStep step = true →
          ∃ n, (retraced own settings route request source
              (before ++ [(.their step, answers)])).verification =
            { (retraced own settings route request source before).verification with
              activity := n } := by
  have recounts := recounts_retraced own settings route request source
  refine ⟨fun lost => ?_, fun kept => ?_, fun e mem => ?_, ?_⟩
  · exact (recounts history).finish_of_lost running lost a
  · exact (recounts history).finish_of_kept running kept a
  · exact ((recounts history).plain_finish a e mem).1
  · intro before step answers lost run
    rw [retraced, Run.retrace_concat]
    exact (recounts before).step_of_lost lost run answers

/-! ### Bob comes back -/

section

open Sas

/-- Alice's request in a room. -/
def sampleRoomRequest : Request := ⟨⟨"ALICE", [.sas], 0⟩, false, "@alice:x", .conversation "$a"⟩

/-- Bob was ready for Alice's start and sent his key, and both came to the end. -/
def samplePast : List (PastStep × Answers) :=
  [(.own (.ready ⟨"BOB", [.sas]⟩), sampleAnswers),
    (.their (.start (Settings.default.startContent "ALICE")), sampleAnswers),
    (.own (.key ⟨"key"⟩), sampleAnswers), (.their .done, sampleAnswers),
    (.own .done, sampleAnswers)]

/-- Bob finds that he is done. Before he sees that, Alice's key does nothing. -/
theorem history_is_summed_up_sample :
    (retraced sampleContext.own .default (.room "!r") sampleRoomRequest ⟨[]⟩
        samplePast).verification.isTerminal = false ∧
      (restored sampleContext.own .default (.room "!r") sampleRoomRequest ⟨[]⟩ samplePast
        sampleAnswers).verification.state = .done ∧
      ∃ n, (retraced sampleContext.own .default (.room "!r") sampleRoomRequest ⟨[]⟩
          (samplePast.take 3 ++ [(.their (.key ⟨"key"⟩), sampleAnswers)])).verification =
        { (retraced sampleContext.own .default (.room "!r") sampleRoomRequest ⟨[]⟩
            (samplePast.take 3)).verification with activity := n } := by
  have running : (retraced sampleContext.own .default (.room "!r") sampleRoomRequest ⟨[]⟩
      samplePast).verification.isTerminal = false := by decide +kernel
  obtain ⟨settles, -, -, ignores⟩ := history_is_summed_up sampleContext.own .default (.room "!r")
    sampleRoomRequest ⟨[]⟩ samplePast sampleAnswers running
  refine ⟨running, ?_, ?_⟩
  · rw [settles ⟨.own (.key ⟨"key"⟩), by decide, rfl⟩]
    decide
  · exact ignores (samplePast.take 3) _ _ ⟨.own (.key ⟨"key"⟩), by decide, rfl⟩ rfl

end

end DeviceVerification.Verification
