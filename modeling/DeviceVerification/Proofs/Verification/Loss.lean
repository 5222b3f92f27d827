import DeviceVerification.Proofs.Verification.Final
import DeviceVerification.Proofs.Verification.Trust

/-!
# Runs that were lost

A verification that finds its own steps of a run in the history cannot restore that run: it forgets
the secrets of the machine and takes no step of a run any more. Its user is not stopped, though, and
can still start a method, or accept the start that came in before the loss (`lost_run_goes_on`): the
counterpart hears of a run that leads nowhere. That happens at most once, and nothing else of a run
is handed out after a loss (`run_steps_after_loss`).
-/

namespace DeviceVerification.Verification

open Progress

variable {a : Answers} {v v' : Verification} {source : KeySource} {op : Operation} {o : Outcome}
  {turn : Sas.Turn} {effects : List Effect}

/-! ## Steps of a run -/

/-- The steps of a run that were handed out. -/
def runSteps (effects : List Effect) : List Step :=
  (effects.filterMap (·.step?)).filter isRunStep

@[simp] theorem runSteps_append (effects effects' : List Effect) :
    runSteps (effects ++ effects') = runSteps effects ++ runSteps effects' := by
  simp [runSteps]

@[simp] theorem runSteps_send (route : Route) (step : Step) (failure : Option TransportError) :
    runSteps [.send route step failure] = [step].filter isRunStep := rfl

theorem Handed.runSteps_eq {route : Route} {steps : List Step}
    (h : Handed route steps effects) : runSteps effects = steps.filter isRunStep := by
  rw [runSteps, h.filterMap_step?]

theorem Dismissed.runSteps_eq {devices : List String} (h : Dismissed devices effects) :
    runSteps effects = [] := by
  rw [runSteps, h.filterMap_step?]
  rfl

/-! ## One operation after the loss -/

/-- Own steps of the run were found, and its secret is gone. -/
structure Lost (v : Verification) : Prop where
  flag : v.sasLost = true
  secret : ∀ m, v.machine = some m → m.secret = none

/-- The number of steps of a run that a verification may still hand out once its run is lost: it can
start one until a method runs, and accept a start that came in before. -/
def remaining (v : Verification) : Nat :=
  match v.state with
  | .ownRequest => 1
  | .theirRequest => 1
  | .ready _ => 1
  | .start _ _ _ => if v.machine.any fun m => m.state == .theirStart then 1 else 0
  | _ => 0

/-- What a user can have handed out after the loss: a start, or an acceptance. -/
inductive Hands : Operation → Step → Prop where
  | start {method : Method} {content : StartContent} : Hands (.start method) (.start content)
  | accept {generation : Nat} {content : AcceptContent} :
      Hands (.act generation .accept) (.accept content)

theorem remaining_le_one (v : Verification) : remaining v ≤ 1 := by
  unfold remaining
  split
  · exact Nat.le_refl 1
  · exact Nat.le_refl 1
  · exact Nat.le_refl 1
  · split <;> omega
  · exact Nat.zero_le 1

theorem remaining_of_closed (closed : v.state.isOpen = false) : remaining v = 0 := by
  unfold remaining
  cases state : v.state <;> simp [state, State.isOpen, State.isTerminal] at closed ⊢

theorem remaining_congr (state : v'.state = v.state) (machine : v'.machine = v.machine) :
    remaining v' = remaining v := by
  rw [remaining, remaining, state, machine]

/-- A step that is taken after the loss is none of a run. -/
theorem Hears.of_lost {sender : Option String} {step : Step} (hears : v.Hears sender step)
    (lost : v.sasLost = true) : isRunStep step = false := by
  have kept := hears.kept
  rw [lost, Bool.true_and] at kept
  exact kept

/-- A machine without a secret verifies nothing and sends nothing but an acceptance. -/
theorem Feeds.outbound_of_lost {generation : Nat} {m : Sas.Machine} {input : Sas.Input}
    {d : Sas.Machine.Drawn} (h : Feeds a v generation op input) (lost : v.sasLost = true)
    (secret : m.secret = none) (change : m.Change source input d) :
    d.machine.secret = none ∧ (∀ keys, d.turn.verdict ≠ .verified keys) ∧
      (d.turn.outbound = [] ∧ d.machine.state = m.state ∨
        ∃ content, d.turn.outbound = [.accept content] ∧ Hands op (.accept content) ∧
          m.state = .theirStart ∧ d.machine.state ≠ .theirStart) := by
  cases h with
  | accepted hears => cases hears.of_lost lost
  | key hears => cases hears.of_lost lost
  | mac hears => cases hears.of_lost lost
  | accept =>
    cases change with
    | acceptFails | acceptUndrawn => exact ⟨secret, by simp [Sas.Turn.cancel], .inl ⟨rfl, rfl⟩⟩
    | accept state =>
      refine ⟨secret, by simp [Sas.Turn.send], .inr ⟨_, rfl, .accept, state, ?_⟩⟩
      simp [Sas.Machine.accepting]
  | confirm =>
    cases change with
    | confirmFails state known => cases secret.symm.trans known
    | confirm state known => cases secret.symm.trans known
  | reject =>
    cases change with
    | reject => exact ⟨secret, by simp [Sas.Turn.cancel], .inl ⟨rfl, rfl⟩⟩

/-- What an operation leaves after a loss: the run stays lost, and every step of a run that is
handed out uses up what remains. -/
structure Spends (v : Verification) (op : Operation) (o : Outcome) : Prop where
  lost : Lost o.verification
  spent : (runSteps o.effects).length + remaining o.verification ≤ remaining v
  hands : ∀ step ∈ runSteps o.effects, Hands op step

namespace Spends

theorem of_silent (lost : Lost o.verification) (silent : runSteps o.effects = [])
    (kept : remaining o.verification ≤ remaining v) : Spends v op o where
  lost := lost
  spent := by
    rw [silent]
    simpa using kept
  hands := by
    simp [silent]

end Spends

theorem Lost.enter (h : Lost v) (s : State) : Lost (v.enter s) where
  flag := by
    rw [enter_sasLost]
    exact h.flag
  secret m machine := by
    rw [enter_machine] at machine
    split at machine
    · obtain ⟨k, -, rfl⟩ := Option.map_eq_some_iff.1 machine
      rfl
    · exact h.secret m machine

theorem Lost.counted (h : Lost v) (op : Operation) : Lost (v.counted op) where
  flag := by
    rw [counted_sasLost]
    exact h.flag
  secret m machine := by
    rw [counted_machine] at machine
    exact h.secret m machine

/-- A start after the loss is one more run without a secret. -/
theorem Lost.begun (h : Lost v) (method : Method) (context : Sas.Context) :
    Lost (v.begun method context) := by
  have made : Lost { v with
      nextGeneration := v.nextGeneration + 1
      machine := some (.ownStart v.nextGeneration context v.settings) } := by
    refine ⟨h.flag, ?_⟩
    intro m found
    obtain rfl := Option.some.inj found
    rfl
  exact made.enter _

/-- What was started is not started again. -/
theorem remaining_begun (v : Verification) (method : Method) (context : Sas.Context) :
    remaining (v.begun method context) = 0 := by
  unfold remaining
  rw [begun_machine]
  simp [Verification.begun, Sas.Machine.ownStart, Sas.Machine.init]

/-- What the history has of a run makes the verification lose it. -/
theorem lost_of_replay (v : Verification) : Lost { v.release with sasLost := true } where
  flag := rfl
  secret m machine := by
    obtain ⟨k, -, rfl⟩ := Option.map_eq_some_iff.1 machine
    rfl

theorem remaining_of_replay (v : Verification) :
    remaining { v.release with sasLost := true } = remaining v := by
  unfold remaining Verification.release
  cases v.machine <;> rfl

/-- A verification that closes hands out nothing more of a run. -/
theorem spends_of_closes (lost : Lost v) {s : State} (closed : s.isOpen = false)
    (silent : runSteps effects = []) {reply : Reply} (w : Verification) :
    Spends w op ⟨v.enter s, source, effects, reply⟩ := by
  refine .of_silent (lost.enter s) silent ?_
  rw [remaining_of_closed (by rw [enter_state]; exact closed)]
  exact Nat.zero_le _

/-- A verification that gets ready may still start. -/
theorem spends_of_readies (lost : Lost v) {methods : List Method}
    (silent : runSteps effects = []) {reply : Reply} {w : Verification} (one : remaining w = 1) :
    Spends w op ⟨v.enter (.ready methods), source, effects, reply⟩ := by
  refine .of_silent (lost.enter (.ready methods)) silent ?_
  rw [one]
  exact remaining_le_one _

/-- What follows a turn that verifies nothing hands out what the turn sends. -/
theorem Followed.of_lost (h : Followed a v turn v' effects) (lost : Lost v)
    (unverified : ∀ keys, turn.verdict ≠ .verified keys) :
    Lost v' ∧ runSteps effects = turn.outbound.filter isRunStep ∧ remaining v' ≤ remaining v := by
  cases h with
  | proceed handed => exact ⟨lost, handed.runSteps_eq, Nat.le_refl _⟩
  | recorded handed verdict => exact absurd verdict (unverified _)
  | refused handed verdict => exact absurd verdict (unverified _)
  | pending handed verdict => exact absurd verdict (unverified _)
  | cancelled handed =>
    refine ⟨lost.enter _, ?_, ?_⟩
    · rw [runSteps_append, handed.runSteps_eq, runSteps_send]
      exact List.append_nil _
    · rw [remaining_of_closed (by rw [enter_state]; rfl)]
      exact Nat.zero_le _

/-- A run goes on to send an acceptance at most. -/
theorem spends_of_turn {m : Sas.Machine} {input : Sas.Input} {d : Sas.Machine.Drawn}
    {reply : Reply} (lost : Lost v) (running : v.state.isRunning = true)
    (machine : v.machine = some m) (feeds : Feeds a v m.generation op input)
    (change : m.Change source input d)
    (followed : Followed a { v with machine := some d.machine } d.turn v' effects) :
    Spends v op ⟨v', d.source, effects, reply⟩ := by
  obtain ⟨secret, unverified, sends⟩ :=
    feeds.outbound_of_lost lost.flag (lost.secret m machine) change
  have moved : Lost { v with machine := some d.machine } := by
    refine ⟨lost.flag, ?_⟩
    intro k found
    obtain rfl := Option.some.inj found
    exact secret
  obtain ⟨lost', handed, kept⟩ := followed.of_lost moved unverified
  obtain ⟨method, device, generation, state⟩ := State.isRunning_iff.1 running
  rcases sends with ⟨quiet, same⟩ | ⟨content, accepts, hands, before, after⟩
  · rw [quiet] at handed
    have unmoved : remaining { v with machine := some d.machine } = remaining v := by
      simp [remaining, state, machine, same]
    rw [unmoved] at kept
    exact .of_silent lost' handed kept
  · have one : remaining v = 1 := by simp [remaining, state, machine, before]
    have none : remaining { v with machine := some d.machine } = 0 := by
      simp [remaining, state, after]
    rw [accepts] at handed
    refine ⟨lost', ?_, ?_⟩
    · show (runSteps effects).length + remaining v' ≤ remaining v
      rw [handed, one]
      have used : remaining v' = 0 := by omega
      rw [used]
      exact Nat.le_refl 1
    · intro step mem
      rw [handed] at mem
      obtain rfl := List.mem_singleton.1 mem
      exact hands

/-- After a loss, every operation spends what it hands out. -/
theorem Transition.spends (t : Transition a v source op o) (lost : Lost v) : Spends v op o := by
  cases t with
  | ended | refused | ignored | keptStart | replayedLate | unsettled =>
    exact .of_silent lost rfl (Nat.le_refl _)
  | cancels | abort | yield | answeredElsewhere | cancelledByThem | replayedCancel =>
    exact spends_of_closes lost rfl rfl v
  | doneLast =>
    have done : Lost { v with theirDone := true } := ⟨lost.flag, lost.secret⟩
    exact spends_of_closes done rfl rfl v
  | settled =>
    refine spends_of_closes lost ?_ rfl v
    cases v.ownDone <;> cases v.theirDone <;> rfl
  | ready state => exact spends_of_readies lost rfl (by simp [remaining, state])
  | replayedReady state => exact spends_of_readies lost rfl (by simp [remaining, state])
  | @receivedReady sender content effects reply hears state some dismissed =>
    have chose : Lost { chosen content.fromDevice v with
        methods := commonMethods v.methods content.methods } := ⟨lost.flag, lost.secret⟩
    exact spends_of_readies chose dismissed.runSteps_eq (by simp [remaining, state])
  | doneFirst | replayedDone =>
    exact .of_silent ⟨lost.flag, lost.secret⟩ rfl (Nat.le_of_eq (remaining_congr rfl rfl))
  | replayedRun =>
    exact .of_silent (lost_of_replay v) rfl (Nat.le_of_eq (remaining_of_replay v))
  | @start method methods context failure reply state offered known =>
    have one : remaining v = 1 := by simp [remaining, state]
    refine ⟨lost.begun method context, ?_, ?_⟩
    · rw [remaining_begun, one]
      exact Nat.le_refl 1
    · intro step mem
      obtain rfl := List.mem_singleton.1 mem
      exact .start
  | turn state machine feeds change followed =>
    exact spends_of_turn lost state machine feeds change followed
  | receivedStart hears => cases hears.of_lost lost.flag
  | lostStart hears => cases hears.of_lost lost.flag

/-! ## Runs after the loss -/

/-- A verification of which no run can come to an end any more: it waits, it ended, or its run was
lost. -/
def Muted (v : Verification) : Prop := v.held = true ∨ v.isTerminal = true ∨ Lost v

/-- Own steps of a run in the history lose the run. -/
theorem muted_of_replay {step : Step} (run : isRunStep step = true) (a : Answers)
    (v : Verification) (source : KeySource) :
    Muted (perform a (.replay step) v source).verification ∧
      (perform a (.replay step) v source).effects = [] := by
  cases held : v.held with
  | true =>
    rw [perform_of_held held]
    exact ⟨.inl held, rfl⟩
  | false =>
    have t : Transition a v source (.replay step) (perform a (.replay step) v source) :=
      transition_of_perform held (.replay step)
    generalize perform a (.replay step) v source = o at t
    cases t with
    | ended terminal => exact ⟨.inr (.inl terminal), rfl⟩
    | refused action => cases action
    | cancels running why => cases why
    | turn state machine feeds => cases feeds
    | replayedReady => cases run
    | replayedLate => cases run
    | replayedDone => cases run
    | replayedCancel => cases run
    | replayedRun => exact ⟨.inr (.inr (lost_of_replay v)), rfl⟩

/-- What holds of a run after the loss. -/
structure Spent (r : Run) : Prop where
  muted : Muted r.verification
  credit : (runSteps r.effects).length + remaining r.verification ≤ 1
  hands : ∀ e ∈ r.log, ∀ step ∈ runSteps e.outcome.effects, Hands e.op step

namespace Spent

variable {r : Run}

/-- An operation that changes nothing spends nothing. -/
theorem still (h : Spent r) (op : Operation) (a : Answers) (source : KeySource) (reply : Reply) :
    Spent (r.extend op a ⟨r.verification, source, [], reply⟩) where
  muted := h.muted
  credit := by
    rw [Run.effects_extend, List.append_nil]
    exact h.credit
  hands e mem step handed := by
    rcases List.mem_append.1 mem with old | new
    · exact h.hands e old step handed
    · obtain rfl := List.mem_singleton.1 new
      cases handed

theorem change (h : Spent r) (free : r.verification.held = false)
    (t : Transition a (r.verification.counted op) r.source op o) : Spent (r.extend op a o) := by
  rcases h.muted with held | terminal | lost
  · cases free.symm.trans held
  · rw [counted_of_terminal terminal] at t
    obtain ⟨reply, rfl⟩ := t.unchanged_of_terminal terminal
    exact h.still op a r.source reply
  · have spends := t.spends (lost.counted op)
    have spent := spends.spent
    rw [remaining_congr (counted_state _ op) (counted_machine _ op)] at spent
    have credit := h.credit
    refine ⟨.inr (.inr spends.lost), ?_, ?_⟩
    · rw [Run.effects_extend, runSteps_append, List.length_append]
      show _ + remaining o.verification ≤ 1
      omega
    · intro e mem step handed
      rcases List.mem_append.1 mem with old | new
      · exact h.hands e old step handed
      · obtain rfl := List.mem_singleton.1 new
        exact spends.hands step handed

theorem steps (h : Spent r) (events : List (Operation × Answers)) : Spent (r.steps events) :=
  Run.steps_induction (fun r op a h _ => h.still op a r.source .waiting)
    (fun _ _ _ _ h free t => h.change free t) h events

end Spent

/-- **After a loss, a run is started or accepted once at most.** Once an own step of a run was found
in the history, whatever happens, at most one step of a run is handed out: a start that the user
wanted, or his acceptance of a start that had come in before. No key and no MACs are. -/
theorem run_steps_after_loss {step : Step} (run : isRunStep step = true) (v : Verification)
    (source : KeySource) (a : Answers) (later : List (Operation × Answers)) :
    (runSteps ((Run.begin v source).steps ((.replay step, a) :: later)).effects).length ≤ 1 ∧
      ∀ e ∈ ((Run.begin v source).steps ((.replay step, a) :: later)).log,
        ∀ handed ∈ runSteps e.outcome.effects, Hands e.op handed := by
  obtain ⟨muted, silent⟩ := muted_of_replay run a v source
  have start : Spent ((Run.begin v source).step (.replay step, a)) := by
    refine ⟨muted, ?_, ?_⟩
    · have none : ((Run.begin v source).step (.replay step, a)).effects = [] := by
        rw [Run.step, Run.effects_extend]
        exact silent
      rw [none]
      have bound := remaining_le_one ((Run.begin v source).step (.replay step, a)).verification
      show 0 + _ ≤ 1
      omega
    · intro e mem handed handing
      obtain rfl := List.mem_singleton.1 mem
      change handed ∈ runSteps (perform a (.replay step) v source).effects at handing
      rw [silent] at handing
      cases handing
  have spent : Spent ((Run.begin v source).steps ((.replay step, a) :: later)) :=
    start.steps later
  have credit := spent.credit
  refine ⟨?_, spent.hands⟩
  omega

/-! ### Bob goes on -/

section

open Sas

/-- Bob, who is ready, finds that he started before. -/
def sampleFound : Operation × Answers :=
  (.replay (.start (Settings.default.startContent "BOB")), sampleAnswers)

/-- Bob, who is ready. -/
def sampleReady : Run := (Run.begin sampleAsked ⟨[]⟩).step (.ready, sampleAnswers)

/-- Bob, whom Alice's start reached, and who has a key pair to draw. -/
def sampleStarted : Run :=
  (Run.begin sampleReady.verification ⟨[.ok (sampleKeyPair 6)]⟩).step
    (.receive (some "ALICE") (.start (Settings.default.startContent "ALICE")), sampleAnswers)

/-- Bob starts again once, and then never. -/
theorem run_steps_after_loss_sample :
    (runSteps ((Run.begin sampleReady.verification ⟨[]⟩).steps
        [sampleFound, (.start .sas, sampleAnswers)]).effects).length = 1 ∧
      ∀ later : List (Operation × Answers),
        (runSteps ((Run.begin sampleReady.verification ⟨[]⟩).steps
          (sampleFound :: (.start .sas, sampleAnswers) :: later)).effects).length ≤ 1 := by
  have run : isRunStep (.start (Settings.default.startContent "BOB")) = true := rfl
  refine ⟨by decide +kernel, ?_⟩
  intro later
  exact (run_steps_after_loss run sampleReady.verification ⟨[]⟩ sampleAnswers
    ((.start .sas, sampleAnswers) :: later)).1

/-- **The user of a lost run goes on.** Bob found his start in the history. Where he is ready, he
still starts; where Alice's start had come in, he still accepts it. -/
theorem lost_run_goes_on :
    (sampleReady.verification.isTerminal = false ∧
      runSteps ((Run.begin sampleReady.verification ⟨[]⟩).steps
          [sampleFound, (.start .sas, sampleAnswers)]).effects =
        [.start (Settings.default.startContent "BOB")]) ∧
    sampleStarted.verification.isTerminal = false ∧
      (runSteps ((Run.begin sampleStarted.verification sampleStarted.source).steps
        [sampleFound, (.act 1 .accept, sampleAnswers)]).effects).map (·.kind) = [.accept] := by
  refine ⟨⟨?_, ?_⟩, ?_, ?_⟩
  · decide +kernel
  · decide +kernel
  · decide +kernel
  · decide +kernel

end

end DeviceVerification.Verification
