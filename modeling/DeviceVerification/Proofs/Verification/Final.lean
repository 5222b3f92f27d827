import DeviceVerification.Proofs.Sas.Commitment
import DeviceVerification.Proofs.Verification.Run

/-!
# Terminal states are final

A verification that came to its end holds nothing secret any more, whichever operation brought it
there, and nothing that happens to it afterwards changes it or is noticed outside. Its first half is
an invariant of runs, since every way into a terminal state releases the machine that is current at
that moment; the second half holds of every terminal verification (`terminal_is_final`).
-/

namespace DeviceVerification.Sas.Machine

/-- A machine that holds nothing secret. -/
structure Clean (m : Machine) : Prop where
  keyPair : m.keyPair = none
  secret : m.secret = none
  pendingMac : m.pendingMac = none

theorem clean_release (m : Machine) : m.release.Clean := ⟨rfl, rfl, rfl⟩

end DeviceVerification.Sas.Machine

namespace DeviceVerification.Verification

open Progress

variable {a : Answers} {v v' : Verification} {source : KeySource} {op : Operation} {o : Outcome}
  {turn : Sas.Turn} {effects : List Effect} {content : StartContent}

/-! ## Nothing follows -/

/-- Every case of a transition but the one for terminal states starts from a running
verification. -/
theorem Transition.unchanged_of_terminal (t : Transition a v source op o)
    (terminal : v.isTerminal = true) : ∃ reply, o = ⟨v, source, [], reply⟩ := by
  have ended : ∀ {s : State}, v.state = s → s.isTerminal = true := fun state => state ▸ terminal
  cases t with
  | ended | refused | unsettled => exact ⟨_, rfl⟩
  | cancels running | abort running | yield running | ignored running | cancelledByThem running
  | replayedLate running | replayedDone running | replayedCancel running | replayedRun running
  | settled running => exact absurd (running.symm.trans terminal) (by simp)
  | doneFirst _ _ running => exact absurd (running.symm.trans terminal) (by simp)
  | ready state | start state | answeredElsewhere _ state | receivedReady _ state
  | doneLast _ state | replayedReady state => cases ended state
  | turn state | keptStart _ state | lostStart _ state =>
    exact absurd ((State.isTerminal_of_isRunning state).symm.trans terminal) (by simp)
  | receivedStart _ state => rcases state with state | ⟨methods, state⟩ <;> cases ended state

/-- A step that comes in at the end is not even counted. -/
theorem counted_of_terminal (terminal : v.isTerminal = true) (op : Operation) :
    v.counted op = v := by
  unfold counted
  split
  · exact if_pos terminal
  · rfl

/-- Nothing happens to a verification that is at its end. -/
theorem perform_of_terminal (terminal : v.isTerminal = true) (a : Answers) (op : Operation)
    (source : KeySource) : ∃ reply, perform a op v source = ⟨v, source, [], reply⟩ := by
  cases held : v.held with
  | true => exact ⟨_, perform_of_held held a op source⟩
  | false =>
    have t : Transition a (v.counted op) source op (perform a op v source) :=
      transition_of_perform held op
    rw [counted_of_terminal terminal op] at t
    exact t.unchanged_of_terminal terminal

/-- Whatever happens to a verification that is at its end, it stays as it is, and nothing is asked
of the surroundings. -/
theorem steps_of_terminal (terminal : v.isTerminal = true) (source : KeySource)
    (events : List (Operation × Answers)) :
    ((Run.begin v source).steps events).verification = v ∧
      ((Run.begin v source).steps events).source = source ∧
      ((Run.begin v source).steps events).effects = [] := by
  refine Run.steps_induction (P := fun r => r.verification = v ∧ r.source = source ∧
    r.effects = []) ?_ ?_ ⟨rfl, rfl, rfl⟩ events
  · rintro r op a ⟨same, sourced, silent⟩ _
    refine ⟨same, sourced, ?_⟩
    rw [Run.effects_extend, silent, List.append_nil]
  · rintro r op a outcome ⟨same, sourced, silent⟩ _ t
    rw [same, sourced, counted_of_terminal terminal op] at t
    obtain ⟨reply, rfl⟩ := t.unchanged_of_terminal terminal
    refine ⟨rfl, rfl, ?_⟩
    rw [Run.effects_extend, silent, List.append_nil]

/-! ## Nothing is kept -/

/-- The machine of a verification, if it has one, holds nothing secret. -/
def Forgotten (v : Verification) : Prop := ∀ m, v.machine = some m → m.Clean

/-- A verification that, if it is at its end, holds nothing secret. -/
def EndsClean (v : Verification) : Prop := v.isTerminal = true → Forgotten v

theorem endsClean_of_running (running : v.isTerminal = false) : EndsClean v := by
  intro terminal
  exact absurd (running.symm.trans terminal) (by simp)

/-- Entering a state forgets the secrets of the machine that is current then. -/
theorem endsClean_enter (v : Verification) (s : State) : EndsClean (v.enter s) := by
  intro terminal m machine
  rw [enter_isTerminal] at terminal
  rw [enter_machine, if_pos terminal] at machine
  obtain ⟨kept, -, rfl⟩ := Option.map_eq_some_iff.1 machine
  exact kept.clean_release

theorem Adopted.endsClean (h : Adopted v content v' effects) (running : v.isTerminal = false) :
    EndsClean v' := by
  cases h with
  | stranger => exact endsClean_of_running running
  | adopted => exact endsClean_enter _ _
  | unagreed => exact endsClean_enter _ _

theorem Followed.endsClean (h : Followed a v turn v' effects) (running : v.isTerminal = false) :
    EndsClean v' := by
  cases h with
  | proceed => exact endsClean_of_running running
  | pending => exact endsClean_of_running running
  | recorded => exact endsClean_enter _ _
  | refused | cancelled => exact endsClean_enter _ _

/-- Every operation that ends a verification has it forget its secrets. -/
theorem Transition.endsClean (t : Transition a v source op o) (clean : EndsClean v) :
    EndsClean o.verification := by
  cases t with
  | ended | refused | ignored | keptStart | replayedLate | unsettled => exact clean
  | cancels | abort | yield | ready | start | answeredElsewhere | cancelledByThem | receivedReady
  | doneLast | replayedReady | replayedCancel | settled => exact endsClean_enter _ _
  | doneFirst _ _ running => exact endsClean_of_running running
  | replayedDone running | replayedRun running => exact endsClean_of_running running
  | turn state machine feeds change followed =>
    exact followed.endsClean (State.isTerminal_of_isRunning state)
  | lostStart hears state pending higher adopted =>
    exact adopted.endsClean (State.isTerminal_of_isRunning state)
  | receivedStart hears state supported met adopted =>
    have running : v.isTerminal = false := by
      rcases state with eq | ⟨methods, eq⟩ <;> rw [isTerminal, eq] <;> rfl
    cases met with
    | known => exact adopted.endsClean running
    | chosen => exact adopted.endsClean running

/-- A verification that is reached has forgotten its secrets where it is at its end. -/
theorem Reachable.endsClean (reached : Reachable v) : EndsClean v := by
  refine reached.induction ?_ ?_
  · intro own settings route request _ m machine
    cases machine
  · intro v op a source outcome clean _ t
    refine t.endsClean ?_
    intro terminal m machine
    rw [isTerminal, counted_state] at terminal
    rw [counted_machine] at machine
    exact clean terminal m machine

/-- **Terminal states are final and clean.** A verification that came to its end in whatever way
holds nothing secret; whatever happens to it afterwards, it stays exactly as it is, no key pair is
drawn, and neither is a step handed out nor trust asked for. -/
theorem terminal_is_final (reached : Reachable v) (terminal : v.isTerminal = true) :
    Forgotten v ∧ ∀ source events,
      ((Run.begin v source).steps events).verification = v ∧
        ((Run.begin v source).steps events).source = source ∧
        ((Run.begin v source).steps events).effects = [] := by
  refine ⟨reached.endsClean terminal, ?_⟩
  intro source events
  exact steps_of_terminal terminal source events

/-! ### Bob cancels -/

section

open Sas

/-- Surroundings that know no keys, record every trust and deliver every message. -/
def sampleAnswers : Answers where
  keysOf _ _ := .ok []
  trusting _ _ := .recorded
  delivery _ := none

/-- The key of a device. -/
def sampleKeyOf (device : String) : VerifiableKey := .ofDevice device ("key of " ++ device)

/-- Surroundings that know the key of every device. -/
def sampleAcquainted : Answers :=
  { sampleAnswers with keysOf := fun _ device => .ok [sampleKeyOf device] }

/-- Alice's request, as the side of Bob or her own has it. -/
def sampleRequest (isOwn : Bool) : Request :=
  ⟨⟨"ALICE", [.sas], 0⟩, isOwn, if isOwn then "@bob:x" else "@alice:x", .direct "tx"⟩

/-- Bob before he answers Alice. -/
def sampleAsked : Verification :=
  ofRequest sampleContext.own .default (.devices ["ALICE"]) (sampleRequest false)

/-- Bob answers Alice and accepts her start. -/
def sampleAccepted : Run :=
  (Run.begin sampleAsked ⟨[.ok (sampleKeyPair 6)]⟩).steps
    [(.ready, sampleAnswers),
      (.receive (some "ALICE") (.start (Settings.default.startContent "ALICE")), sampleAnswers),
      (.act 1 .accept, sampleAnswers)]

/-- Bob cancels what he accepted. -/
def sampleCancelled : Run := sampleAccepted.step (.cancel ⟨.user, "later"⟩, sampleAnswers)

/-- Bob's run had a key pair, and his cancellation leaves him with none for good. -/
theorem terminal_is_final_sample :
    (∃ m, sampleAccepted.verification.machine = some m ∧ m.keyPair.isSome = true) ∧
      sampleCancelled.verification.machine.isSome = true ∧
      Forgotten sampleCancelled.verification ∧ ∀ source events,
        ((Run.begin sampleCancelled.verification source).steps events).verification =
            sampleCancelled.verification ∧
          ((Run.begin sampleCancelled.verification source).steps events).source = source ∧
          ((Run.begin sampleCancelled.verification source).steps events).effects = [] := by
  have held : ∃ m, sampleAccepted.verification.machine = some m ∧ m.keyPair.isSome = true := by
    have drawn : (sampleAccepted.verification.machine.bind (·.keyPair)).isSome = true := by
      decide +kernel
    cases machine : sampleAccepted.verification.machine with
    | none => simp [machine] at drawn
    | some m => exact ⟨m, rfl, by simpa [machine] using drawn⟩
  have reached : Reachable sampleCancelled.verification :=
    ⟨sampleCancelled, ⟨_, _, _, sampleRequest false, ⟨[.ok (sampleKeyPair 6)]⟩,
      [(.ready, sampleAnswers),
        (.receive (some "ALICE") (.start (Settings.default.startContent "ALICE")), sampleAnswers),
        (.act 1 .accept, sampleAnswers), (.cancel ⟨.user, "later"⟩, sampleAnswers)], rfl⟩, rfl⟩
  have terminal : sampleCancelled.verification.isTerminal = true := by decide +kernel
  exact ⟨held, by decide +kernel, terminal_is_final reached terminal⟩

end

end DeviceVerification.Verification
