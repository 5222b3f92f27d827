import DeviceVerification.Proofs.Verification.Speech

/-!
# The terms of a verification

What a verification offers is there before it says anything: the methods of the request that can be
run, and the algorithms of its settings. It says no more and no less than that
(`Transition.utters`). An acceptance answers a start of the counterpart, which is only taken where
there is something to agree on (`Transition.waitsFor`).
-/

namespace DeviceVerification

/-- A machine that waits for us to answer a start has waited for that all along. -/
theorem Sas.Machine.Change.theirStart {m : Machine} {source : KeySource} {input : Input} {d : Drawn}
    (h : m.Change source input d) (state : d.machine.state = .theirStart) :
    m.state = .theirStart := by
  cases h with
  | acceptFails | acceptUndrawn | acceptedUnexpected | acceptedUnoffered | keyUnexpected
  | keyMismatched | starterKeyInvalid | macHeld | macJudged | macUnexpected | confirmFails | reject
  | release => exact state
  | accept | acceptedUndrawn | accepted | starterKey | accepterKeyInvalid | accepterKey
  | confirm => cases state

namespace Verification

open Progress Peers

variable {a : Answers} {v v' : Verification} {source : KeySource} {op : Operation} {o : Outcome}
  {turn : Sas.Turn} {effects : List Effect} {content : StartContent} {step : Step}
  {k : Sas.Machine}

/-! ## What is said -/

/-- A step that a verification hands over on its way to another one. -/
inductive Utters (v v' : Verification) : Step → Prop where
  | ready (asked : v.state = .theirRequest) (some : v.methods ≠ []) :
      Utters v v' (.ready ⟨v.own.device, v.methods⟩)
  | start : Utters v v' (.start (v.settings.startContent v.own.device))
  | accept {m : Sas.Machine} {content : AcceptContent} (machine : v.machine = some m)
      (state : m.state = .theirStart) : Utters v v' (.accept content)
  | key (content : KeyContent) : Utters v v' (.key content)
  | mac (content : MacContent) : Utters v v' (.mac content)
  | done : Utters v v' .done
  | cancel {content : CancelContent} (state : v'.state = .cancelled content true) :
      Utters v v' (.cancel content)

theorem Adopted.utters {w : Verification} (h : Adopted w content v' effects)
    (mem : step ∈ stepsOf effects) : Utters v v' step := by
  cases h with
  | stranger | adopted => cases mem
  | unagreed =>
    obtain rfl := List.mem_singleton.1 mem
    exact .cancel (enter_state _ _)

/-- An operation has a verification say what it stands for. -/
theorem Transition.utters (t : Transition a v source op o) (mem : step ∈ stepsOf o.effects) :
    Utters v o.verification step := by
  cases t with
  | ended | refused | ignored | keptStart | replayedLate | unsettled | doneFirst | replayedDone
  | replayedRun | abort | yield | answeredElsewhere | cancelledByThem | doneLast | replayedReady
  | replayedCancel | settled => cases mem
  | cancels =>
    obtain rfl := List.mem_singleton.1 mem
    exact .cancel (enter_state _ _)
  | ready asked some =>
    obtain rfl := List.mem_singleton.1 mem
    exact .ready asked some
  | start state offered known =>
    obtain rfl := List.mem_singleton.1 mem
    obtain ⟨device, -, rfl⟩ := context?_eq_some_iff.1 known
    exact .start
  | turn state machine feeds change followed =>
    rcases followed.stepsOf_cases mem with sent | rfl | ⟨reason, rfl, cancelled⟩
    · cases change with
      | accept waits =>
        obtain rfl := List.mem_singleton.1 sent
        exact .accept machine waits
      | accepted | accepterKey =>
        obtain rfl := List.mem_singleton.1 sent
        exact .key _
      | confirm =>
        obtain rfl := List.mem_singleton.1 sent
        exact .mac _
      | _ => cases sent
    · exact .done
    · exact .cancel cancelled
  | receivedReady hears state some dismissed =>
    rw [stepsOf, dismissed.filterMap_step?] at mem
    cases mem
  | receivedStart hears state supported met adopted =>
    cases met with
    | known => exact adopted.utters mem
    | chosen unknown dismissed =>
      rw [stepsOf_append, stepsOf, dismissed.filterMap_step?] at mem
      exact adopted.utters mem
  | lostStart hears state pending higher adopted => exact adopted.utters mem

theorem utters_perform (a : Answers) (source : KeySource)
    (mem : step ∈ stepsOf (perform a op v source).effects) :
    Utters v (perform a op v source).verification step := by
  obtain ⟨-, same⟩ | ⟨-, t⟩ := perform_cases a op v source
  · rw [same] at mem
    cases mem
  · have uttered := t.utters mem
    generalize (perform a op v source).verification = v' at uttered
    cases uttered with
    | ready asked some =>
      simp only [counted_state, counted_methods] at asked some
      simpa only [counted_own, counted_methods] using Utters.ready (v := v) asked some
    | start => simpa only [counted_settings, counted_own] using Utters.start (v := v)
    | accept machine state => exact .accept ((counted_machine v op).symm.trans machine) state
    | key content => exact .key content
    | mac content => exact .mac content
    | done => exact .done
    | cancel state => exact .cancel state

/-! ## What is offered -/

theorem Adopted.offer_eq (h : Adopted v content v' effects) :
    v'.settings = v.settings ∧ v'.methods = v.methods := by
  cases h with
  | stranger => exact ⟨rfl, rfl⟩
  | adopted | unagreed => exact ⟨enter_settings _ _, enter_methods _ _⟩

theorem Followed.offer_eq (h : Followed a v turn v' effects) :
    v'.settings = v.settings ∧ v'.methods = v.methods := by
  cases h with
  | proceed | pending => exact ⟨rfl, rfl⟩
  | recorded | refused | cancelled => exact ⟨enter_settings _ _, enter_methods _ _⟩

/-- The settings stay, and so do the methods, unless a ready leaves fewer of them. -/
structure Offers (v : Verification) (op : Operation) (v' : Verification) : Prop where
  settings : v'.settings = v.settings
  methods : v'.methods = v.methods ∨ ∃ sender content, op = .receive sender (.ready content) ∧
    v.state = .ownRequest ∧ v'.methods = commonMethods v.methods content.methods

theorem Transition.offers (t : Transition a v source op o) : Offers v op o.verification := by
  have of_same {v' : Verification} (h : v'.settings = v.settings ∧ v'.methods = v.methods) :
      Offers v op v' := ⟨h.1, .inl h.2⟩
  cases t with
  | ended | refused | ignored | keptStart | replayedLate | unsettled | doneFirst | replayedDone
  | replayedRun => exact of_same ⟨rfl, rfl⟩
  | cancels | abort | yield | ready | start | answeredElsewhere | cancelledByThem | doneLast
  | replayedReady | replayedCancel | settled =>
    exact of_same ⟨enter_settings _ _, enter_methods _ _⟩
  | turn state machine feeds change followed => exact of_same followed.offer_eq
  | receivedReady hears state =>
    exact ⟨enter_settings _ _, .inr ⟨_, _, rfl, state, enter_methods _ _⟩⟩
  | receivedStart hears state supported met adopted =>
    cases met with
    | known => exact of_same adopted.offer_eq
    | chosen => exact of_same adopted.offer_eq
  | lostStart hears state pending higher adopted => exact of_same adopted.offer_eq

theorem offers_perform (a : Answers) (op : Operation) (v : Verification) (source : KeySource) :
    Offers v op (perform a op v source).verification := by
  obtain ⟨-, same⟩ | ⟨-, t⟩ := perform_cases a op v source
  · rw [same]
    exact ⟨rfl, .inl rfl⟩
  · obtain ⟨settings, methods⟩ := t.offers
    rw [counted_settings] at settings
    rw [counted_methods, counted_state] at methods
    exact ⟨settings, methods⟩

/-! ## What is answered -/

theorem Keeps.theirStart (h : Keeps v v') (machine : v'.machine = some k)
    (state : k.state = .theirStart) : ∃ m, v.machine = some m ∧ m.state = .theirStart := by
  obtain ⟨m, found, rfl | rfl⟩ := h k machine
  · exact ⟨k, found, state⟩
  · exact ⟨m, found, state⟩

/-- A machine that waits for us to answer a start has waited before, or was made for a start of the
counterpart with which there is something to agree on. -/
inductive WaitsFor (v : Verification) (op : Operation) : Prop where
  | before {m : Sas.Machine} (machine : v.machine = some m) (state : m.state = .theirStart)
  | started {sender : Option String} {content : StartContent}
      (heard : op = .receive sender (.start content))
      (agrees : v.settings.negotiate content ≠ none)

theorem Keeps.waitsFor (h : Keeps v v') (machine : v'.machine = some k)
    (state : k.state = .theirStart) : WaitsFor v op := by
  obtain ⟨m, found, waits⟩ := h.theirStart machine state
  exact .before found waits

theorem Adopted.waitsFor {w : Verification} {sender : Option String}
    (h : Adopted w content v' effects)
    (keeps : Keeps v w) (settings : w.settings = v.settings) (machine : v'.machine = some k)
    (state : k.state = .theirStart) : WaitsFor v (.receive sender (.start content)) := by
  cases h with
  | stranger => exact keeps.waitsFor machine state
  | unagreed =>
    have drawn : Keeps v { w with nextGeneration := w.nextGeneration + 1 } := keeps
    exact (drawn.trans (keeps_enter _ _)).waitsFor machine state
  | adopted known made =>
    refine .started rfl fun apart => ?_
    rw [Sas.Machine.theirStart, settings, apart] at made
    cases made

theorem Followed.keeps (h : Followed a v turn v' effects) : Keeps v v' := by
  cases h with
  | proceed | pending => exact keeps_of_machine_eq rfl
  | recorded => exact keeps_completed v
  | refused | cancelled => exact keeps_enter _ _

theorem Transition.waitsFor (t : Transition a v source op o)
    (machine : o.verification.machine = some k) (state : k.state = .theirStart) :
    WaitsFor v op := by
  cases t with
  | ended | refused | ignored | keptStart | replayedLate | unsettled | doneFirst | replayedDone =>
    exact .before machine state
  | cancels | abort | yield | ready | answeredElsewhere | cancelledByThem | replayedReady
  | replayedCancel | settled => exact (keeps_enter _ _).waitsFor machine state
  | replayedRun => exact (keeps_release v).waitsFor machine state
  | doneLast =>
    have done : Keeps v { v with theirDone := true } := keeps_of_machine_eq rfl
    exact (done.trans (keeps_enter _ _)).waitsFor machine state
  | @receivedReady _ content =>
    have chose : Keeps v { chosen content.fromDevice v with
        methods := commonMethods v.methods content.methods } := keeps_of_machine_eq rfl
    exact (chose.trans (keeps_enter _ _)).waitsFor machine state
  | @start method methods context =>
    obtain rfl := Option.some.inj ((begun_machine v method context).symm.trans machine)
    cases state
  | turn running found feeds change followed =>
    obtain ⟨m, same, waits⟩ := followed.keeps.theirStart machine state
    obtain rfl := Option.some.inj same
    exact .before found (change.theirStart waits)
  | lostStart hears running pending higher adopted =>
    have gone : Keeps v { v with machine := none } := fun k none => by cases none
    exact adopted.waitsFor gone rfl machine state
  | receivedStart hears open_ supported met adopted =>
    cases met with
    | known => exact adopted.waitsFor (keeps_of_machine_eq rfl) rfl machine state
    | chosen => exact adopted.waitsFor (keeps_of_machine_eq rfl) rfl machine state

theorem waitsFor_perform (a : Answers) (source : KeySource)
    (machine : (perform a op v source).verification.machine = some k)
    (state : k.state = .theirStart) : WaitsFor v op := by
  obtain ⟨-, same⟩ | ⟨-, t⟩ := perform_cases a op v source
  · rw [same] at machine
    exact .before machine state
  · cases t.waitsFor machine state with
    | before found waits => exact .before ((counted_machine v op).symm.trans found) waits
    | started heard agrees => exact .started heard (counted_settings v op ▸ agrees)

end Verification

end DeviceVerification
