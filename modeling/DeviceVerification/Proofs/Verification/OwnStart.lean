import DeviceVerification.Proofs.Verification.Trust

/-!
# A start that waits for its answer

Until the counterpart answers our start, the machine stays as it was made and the verification is
not held (`Pristine`). The only step that can take the run from it is a start of the counterpart,
which crossed ours on the way: `Transition.second_start` lists what becomes of that.
-/

namespace DeviceVerification

namespace Sas.Machine

variable {m : Machine} {settings : Settings} {source : KeySource} {input : Input} {d : Drawn}

/-- A machine that, if its start waits for an answer, is as it was made. -/
def Untouched (settings : Settings) (m : Machine) : Prop :=
  m.state = .ownStart → m = .ownStart m.generation m.context settings

theorem untouched_of_state_ne (h : m.state ≠ .ownStart) : m.Untouched settings :=
  fun own => absurd own h

theorem Untouched.release (h : m.Untouched settings) : m.release.Untouched settings := by
  intro own
  exact congrArg Machine.release (h own)

/-- What answers a start brings the machine to another state. -/
theorem Change.untouched (h : m.Change source input d) (untouched : m.Untouched settings) :
    d.machine.Untouched settings := by
  cases h with
  | acceptFails | acceptUndrawn | acceptedUnexpected | acceptedUnoffered | keyUnexpected
  | keyMismatched | starterKeyInvalid | macJudged | macUnexpected | confirmFails | reject =>
    exact untouched
  | accept | acceptedUndrawn | accepted | starterKey | accepterKeyInvalid | accepterKey
  | confirm => exact untouched_of_state_ne (fun own => by cases own)
  | macHeld state first =>
    refine untouched_of_state_ne ?_
    intro own
    rw [show m.state = .ownStart from own] at state
    cases state
  | release => exact untouched.release

/-- Keys are verified long after the start was answered. -/
theorem Change.state_ne_of_verified (h : m.Change source input d) {keys : List VerifiableKey}
    (verdict : d.turn.verdict = .verified keys) : d.machine.state ≠ .ownStart := by
  cases h with
  | macJudged state =>
    rw [state]
    simp
  | confirm => simp [confirmed]
  | _ => cases verdict

end Sas.Machine

namespace Verification

open Progress

variable {a : Answers} {v v' : Verification} {source : KeySource} {op : Operation} {o : Outcome}
  {turn : Sas.Turn} {effects : List Effect} {content : StartContent}

/-- What holds of a verification whose start waits for an answer: its machine is as it was made,
and nothing waits behind the trust store. -/
structure Pristine (v : Verification) : Prop where
  machine : ∀ m, v.machine = some m → m.Untouched v.settings
  free : v.held = true → ∀ m, v.machine = some m → m.state ≠ .ownStart

namespace Pristine

theorem of_free (free : v.held = false)
    (machine : ∀ m, v.machine = some m → m.Untouched v.settings) : Pristine v where
  machine := machine
  free held := by
    cases free.symm.trans held

theorem keeps (h : Pristine v) (kept : Keeps v v') (settings : v'.settings = v.settings)
    (held : v'.held = v.held) : Pristine v' where
  machine m' machine' := by
    rw [settings]
    obtain ⟨m, machine, rfl | rfl⟩ := kept m' machine'
    · exact h.machine m' machine
    · exact (h.machine m machine).release
  free waits m' machine' := by
    rw [held] at waits
    obtain ⟨m, machine, rfl | rfl⟩ := kept m' machine'
    · exact h.free waits m' machine
    · exact h.free waits m machine

theorem enter (h : Pristine v) (s : State) : Pristine (v.enter s) :=
  h.keeps (keeps_enter v s) (enter_settings v s) (enter_held v s)

end Pristine

theorem Adopted.pristine (h : Adopted v content v' effects) (free : v.held = false)
    (pristine : Pristine v) : Pristine v' := by
  cases h with
  | stranger => exact pristine
  | unagreed =>
    have counted : Pristine { v with nextGeneration := v.nextGeneration + 1 } :=
      pristine.keeps (keeps_of_machine_eq rfl) rfl rfl
    exact counted.enter _
  | @adopted context m known made =>
    refine .of_free ((enter_held _ _).trans free) ?_
    intro k machine
    rw [enter_machine] at machine
    obtain rfl : m = k := by simpa [State.isTerminal] using machine
    refine Sas.Machine.untouched_of_state_ne ?_
    obtain rfl := Sas.Machine.eq_init_of_theirStart made
    simp [Sas.Machine.init]

theorem Followed.pristine (h : Followed a v turn v' effects) (pristine : Pristine v)
    (verified : ∀ keys, turn.verdict = .verified keys →
      ∀ m, v.machine = some m → m.state ≠ .ownStart) : Pristine v' := by
  cases h with
  | proceed => exact pristine
  | recorded =>
    refine pristine.keeps (keeps_completed v) ?_ ?_
    · simp [completed, release]
    · simp [completed, release]
  | refused | cancelled => exact pristine.enter _
  | pending handed verdict => exact ⟨pristine.machine, fun _ => verified _ verdict⟩

/-- A start that waits for its answer is left as it is by everything but the answer. -/
theorem Transition.pristine (t : Transition a v source op o) (free : v.held = false)
    (h : Pristine v) : Pristine o.verification := by
  cases t with
  | ended | refused | ignored | keptStart | replayedLate | unsettled => exact h
  | cancels | abort | yield | ready | answeredElsewhere | cancelledByThem | replayedReady
  | replayedCancel | settled =>
    dsimp only
    exact h.enter _
  | doneFirst | replayedDone => exact h.keeps (keeps_of_machine_eq rfl) rfl rfl
  | replayedRun => exact h.keeps (keeps_release v) rfl rfl
  | doneLast =>
    have done : Pristine { v with theirDone := true } := h.keeps (keeps_of_machine_eq rfl) rfl rfl
    exact done.enter .done
  | @receivedReady sender content =>
    have chose : Pristine { chosen content.fromDevice v with
        methods := commonMethods v.methods content.methods } :=
      h.keeps (keeps_of_machine_eq rfl) rfl rfl
    dsimp only
    exact chose.enter _
  | @start method methods context =>
    refine .of_free ?_ ?_
    · exact (enter_held _ _).trans free
    · intro m machine
      obtain rfl := Option.some.inj ((begun_machine v method context).symm.trans machine)
      intro _
      simp [begun]
      rfl
  | @turn op m input d v' effects reply running machine feeds change followed =>
    have moved : Pristine { v with machine := some d.machine } := by
      refine .of_free free ?_
      intro k found
      obtain rfl := Option.some.inj found
      exact change.untouched (h.machine m machine)
    refine followed.pristine moved ?_
    intro keys verdict k found
    obtain rfl := Option.some.inj found
    exact change.state_ne_of_verified verdict
  | lostStart hears state pending higher adopted =>
    refine adopted.pristine free ⟨?_, ?_⟩
    · intro m none
      cases none
    · intro _ m none
      cases none
  | receivedStart hears state supported met adopted =>
    cases met with
    | known => exact adopted.pristine free h
    | chosen => exact adopted.pristine free (h.keeps (keeps_of_machine_eq rfl) rfl rfl)

/-- What becomes of the counterpart's start while our own waits for an answer: it is ignored where
the run was lost, stays without effect at the lower device, and is adopted at the other one. -/
theorem Transition.second_start {sender : Option String}
    (t : Transition a v source (.receive sender (.start content)) o)
    (running : v.state.isRunning = true) (pending : ownStartPending v = true)
    (near : isStray v sender (.start content) = false) :
    (v.sasLost = true ∨ v.own.before ⟨v.theirUser, content.fromDevice⟩ = true) ∧
        (∃ reply, o = ⟨v, source, [], reply⟩) ∨
      v.own.before ⟨v.theirUser, content.fromDevice⟩ = false ∧
        ∃ v' effects reply, Adopted { v with machine := none } content v' effects ∧
          o = ⟨v', source, effects, reply⟩ := by
  have awake : v.isTerminal = false := State.isTerminal_of_isRunning running
  have expected : v.state.expects .start = true := by
    obtain ⟨method, device, generation, eq⟩ := State.isRunning_iff.1 running
    rw [eq]
    rfl
  have later : ¬(v.state = .ownRequest ∨ ∃ methods, v.state = .ready methods) := by
    rintro (eq | ⟨methods, eq⟩) <;> simp [eq, State.isRunning] at running
  cases t with
  | ended terminal => cases awake.symm.trans terminal
  | refused action => cases action
  | cancels _ why =>
    cases why with
    | startUnsupported hears state => exact absurd state later
    | secondStart hears state answered => cases pending.symm.trans answered
    | runless hears state machine kind => simp [Step.kind] at kind
    | unexpected hears surprise => cases expected.symm.trans surprise
  | turn state machine feeds => cases feeds
  | receivedStart hears state => exact absurd state later
  | ignored _ deaf =>
    refine .inl ⟨.inl ?_, _, rfl⟩
    by_contra kept
    exact deaf ⟨near, by simp [kept]⟩
  | keptStart hears state pending lower => exact .inl ⟨.inr lower, _, rfl⟩
  | lostStart hears state pending higher adopted =>
    exact .inr ⟨higher, _, _, _, adopted, rfl⟩

/-! ## Verifications that are reached -/

/-- A start that waits for its answer is as it was made. -/
theorem Reachable.pristine (reached : Reachable v) : Pristine v := by
  refine reached.induction ?_ ?_
  · intro own settings route request
    refine .of_free rfl ?_
    intro m machine
    cases machine
  · intro v op a source outcome pristine free t
    refine t.pristine (by simpa using free) ?_
    exact pristine.keeps (keeps_of_machine_eq (counted_machine _ op)) (counted_settings _ op)
      (counted_held _ op)

/-- The machine runs between the two devices of its verification. -/
theorem Reachable.context {m : Sas.Machine} (reached : Reachable v) (machine : v.machine = some m) :
    v.context? = some m.context := by
  obtain ⟨r, whole, rfl⟩ := reached
  exact (whole.faithful.machine m machine).context

end Verification

end DeviceVerification
