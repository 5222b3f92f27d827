import DeviceVerification.Proofs.Verification.Restoration

/-!
# What the steps of a history are answered with

A step of the counterpart in a history is taken like any other one, so it may be answered. A
verification that nobody acts on answers with cancellations only, and `Objects` says when it does:
where a ready or a start cannot be agreed on, where a step of a run comes although nobody accepted a
start, and where a step is not expected at all. Every other step is taken in silence
(`answers_perform`).
-/

namespace DeviceVerification.Verification

open Progress

variable {a : Answers} {v v' : Verification} {source : KeySource} {o : Outcome} {step : Step}
  {effects : List Effect} {content : StartContent} {roomId : String}

/-! ## Objections -/

/-- What a verification that nobody acts on has against a step that it hears. -/
def Unwelcome (v : Verification) : Step → Prop
  | .ready content => v.state = .ownRequest → commonMethods v.methods content.methods = []
  | .start content => (v.state = .ownRequest ∨ ∃ methods, v.state = .ready methods) →
      content.method ∉ v.methods ∨ v.settings.negotiate content = none
  | .accept _ => True
  | .key _ => True
  | .mac _ => True
  | .done => v.state.expects .done = false ∧ v.sasLost = false
  | .cancel _ => False

/-- A step of a history has the verification cancelled. -/
structure Objects (v : Verification) (step : Step) : Prop where
  running : v.isTerminal = false
  hears : v.Hears none step
  unwelcome : v.Unwelcome step

/-- A step of a history is answered with a cancellation, or taken in silence. Among the steps that
are taken only a cancellation ends the verification. -/
inductive IsAnswered (v : Verification) (step : Step) (o : Outcome) : Prop where
  | objected {reason : CancelContent} {failure : Option TransportError} (objects : v.Objects step)
      (effects : o.effects = [.send v.route (.cancel reason) failure])
      (state : o.verification.state = .cancelled reason true)
  | silent (taken : ¬v.Objects step) (effects : o.effects = [])
      (running : v.isTerminal = false → (∀ content, step ≠ .cancel content) →
        o.verification.isTerminal = false)

/-! ## The cases -/

/-- Nobody is told in a room that another device was chosen. -/
theorem Dismissed.eq_nil (room : v.route = .room roomId) {device : String}
    (h : Dismissed (v.route.others device) effects) : effects = [] := by
  rw [room] at h
  cases h with
  | none => rfl
  | told somebody => exact absurd rfl somebody

theorem Cancels.objects {reason : CancelContent} (h : Cancels a v (.receive none step) reason)
    (running : v.isTerminal = false) : v.Objects step := by
  cases h with
  | readyUnsupported hears state none => exact ⟨running, hears, fun _ => none⟩
  | startUnsupported hears state unsupported => exact ⟨running, hears, fun _ => .inl unsupported⟩
  | secondStart hears state answered =>
    refine ⟨running, hears, fun open_ => ?_⟩
    rcases open_ with eq | ⟨methods, eq⟩ <;> rw [eq] at state <;> cases state
  | runless hears state machine kind =>
    refine ⟨running, hears, ?_⟩
    cases step <;> simp [Step.kind] at kind <;> trivial
  | unreadable hears => exact ⟨running, hears, trivial⟩
  | unexpected hears surprise kept =>
    refine ⟨running, hears, ?_⟩
    cases step with
    | ready content =>
      intro state
      rw [state] at surprise
      cases surprise
    | start content =>
      rintro (state | ⟨methods, state⟩) <;> rw [state] at surprise <;> cases surprise
    | accept | key | mac => trivial
    | done => exact ⟨surprise, kept rfl⟩
    | cancel content => cases v.state <;> cases surprise

/-- A start that is put into effect is answered if no algorithms can be agreed on. -/
theorem Adopted.isAnswered {reply : Reply} {w : Verification}
    (h : Adopted w content v' effects) (hears : v.Hears none (.start content))
    (state : v.state = .ownRequest ∨ ∃ methods, v.state = .ready methods)
    (supported : content.method ∈ v.methods) (known : w.theirDevice.isSome)
    (route : w.route = v.route) (settings : w.settings = v.settings) :
    IsAnswered v (.start content) ⟨v', source, effects, reply⟩ := by
  cases h with
  | stranger unknown =>
    rw [context?, Option.map_eq_none_iff] at unknown
    simp [unknown] at known
  | adopted context made =>
    refine .silent (fun objects => ?_) rfl fun _ _ => enter_isTerminal _ _
    rcases objects.unwelcome state with unsupported | unagreed
    · exact unsupported supported
    · rw [Sas.Machine.theirStart, settings, unagreed] at made
      cases made
  | @unagreed _ reason failure context made =>
    have running : v.isTerminal = false := by
      rcases state with state | ⟨methods, state⟩ <;> simp [isTerminal, state, State.isTerminal]
    refine .objected ⟨running, hears, fun _ => .inr ?_⟩ (by rw [route]) (enter_state _ _)
    rw [Sas.Machine.theirStart, settings] at made
    split at made
    · cases made
    · rename_i none
      simpa using none

theorem Transition.isAnswered (t : Transition a v source (.receive none step) o) (h : Unengaged v)
    (room : v.route = .room roomId) : IsAnswered v step o := by
  have settled : ownStartPending v = false := h.ownStartPending_eq
  cases t with
  | ended terminal =>
    refine .silent (fun objects => ?_) rfl fun running _ => running
    cases objects.running.symm.trans terminal
  | refused action => cases action
  | cancels running why => exact .objected (why.objects running) rfl (enter_state _ _)
  | @turn _ m input d v' effects reply state machine feeds change followed =>
    obtain ⟨same, reason, cancels⟩ :=
      feeds.cancels_of_unaccepted change (h.unaccepted m machine)
    rw [cancels] at followed
    have running : v.isTerminal = false := State.isTerminal_of_isRunning state
    have objects : v.Objects step := by
      cases feeds with
      | accepted hears | key hears | mac hears => exact ⟨running, hears, trivial⟩
    cases followed with
    | proceed _ verdict | recorded _ verdict | refused _ verdict | pending _ verdict =>
      cases verdict
    | cancelled handed verdict =>
      cases verdict
      cases handed
      exact .objected objects rfl (enter_state _ _)
  | ignored running deaf => exact .silent (fun objects => deaf objects.hears) rfl fun _ _ => running
  | answeredElsewhere | cancelledByThem =>
    exact .silent (fun objects => objects.unwelcome) rfl fun _ other => absurd rfl (other _)
  | receivedReady hears state some dismissed =>
    obtain rfl := dismissed.eq_nil room
    exact .silent (fun objects => some (objects.unwelcome state)) rfl fun _ _ =>
      enter_isTerminal _ _
  | receivedStart hears state supported met adopted =>
    cases met with
    | known device => exact adopted.isAnswered hears state supported device rfl rfl
    | chosen unknown dismissed =>
      obtain rfl := dismissed.eq_nil room
      refine adopted.isAnswered hears state supported rfl ?_ rfl
      show v.route.narrow _ = v.route
      rw [room]
      rfl
  | keptStart hears state pending => cases settled.symm.trans pending
  | lostStart hears state pending => cases settled.symm.trans pending
  | doneFirst hears state running =>
    refine .silent (fun objects => ?_) rfl fun _ _ => running
    obtain ⟨surprise, kept⟩ := objects.unwelcome
    rcases state with state | ⟨-, lost⟩
    · obtain ⟨method, device, generation, eq⟩ := State.isRunning_iff.1 state
      rw [eq] at surprise
      cases surprise
    · cases kept.symm.trans lost
  | doneLast hears state => exact absurd state (h.unfinished _)

/-- Counting a step changes nothing about what is objected to. -/
theorem objects_counted_iff {op : Operation} : (v.counted op).Objects step ↔ v.Objects step := by
  obtain ⟨n, same⟩ := exists_counted v op
  rw [same]
  exact ⟨fun h => ⟨h.running, ⟨h.hears.near, h.hears.kept⟩, h.unwelcome⟩,
    fun h => ⟨h.running, ⟨h.hears.near, h.hears.kept⟩, h.unwelcome⟩⟩

theorem answers_perform (h : Unengaged v) (room : v.route = .room roomId) (a : Answers)
    (step : Step) (source : KeySource) :
    IsAnswered v step (perform a (.receive none step) v source) := by
  have t : Transition a (v.counted (.receive none step)) source (.receive none step)
      (perform a (.receive none step) v source) := transition_of_perform h.free _
  cases t.isAnswered (h.counted _) (by simpa using room) with
  | objected objects effects state =>
    rw [counted_route] at effects
    exact .objected (objects_counted_iff.1 objects) effects state
  | silent taken effects running =>
    refine .silent (fun objects => taken (objects_counted_iff.2 objects)) effects ?_
    simpa [isTerminal] using running

end DeviceVerification.Verification
