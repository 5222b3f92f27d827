import DeviceVerification.Proofs.Verification.Frame

/-!
# Whose device is verified

A request of ours goes to a user, and the device of the first answer that is heard is the one that
is verified (`asked_perform`). It is not changed any more, and steps of other devices are counted
and do nothing else (`perform_of_stray`), like every step that is not heard (`perform_of_deaf`).
-/

namespace DeviceVerification.Verification

open Progress

variable {a : Answers} {v v' w : Verification} {source : KeySource} {op : Operation} {o : Outcome}
  {effects : List Effect} {content : StartContent} {device : String} {step : Step}

/-- What a device that follows a room live does: actions of its own, standing down for another
device, and taking a step, of which no more is known than its sender. -/
inductive Operation.IsLive : Operation → Prop where
  | action {op : Operation} (isLocal : op.isLocal = true) : IsLive op
  | yield : IsLive .yieldToOtherDevice
  | receive (step : Step) : IsLive (.receive none step)

theorem Operation.IsLive.ne_replay (h : op.IsLive) (step : Step) : op ≠ .replay step := by
  rintro rfl
  cases h with
  | action isLocal => cases isLocal

theorem Operation.IsLive.sender_eq_none {sender : Option String}
    (h : IsLive (.receive sender step)) : sender = none := by
  cases h with
  | action isLocal => cases isLocal
  | receive => rfl

/-- A device that is known stays the one that is verified. -/
theorem theirDevice_perform (a : Answers) (source : KeySource) (known : v.theirDevice = some device)
    (live : op.IsLive) : (perform a op v source).verification.theirDevice = some device := by
  cases pins_perform a op v source with
  | keeps same => exact same.trans known
  | @fixes sender step other heard near named _ chosen =>
    subst heard
    obtain rfl := live.sender_eq_none
    rw [isStray, known, Option.none_or, named] at near
    obtain rfl : device = other := by simpa using near
    exact chosen

/-- Steps that are not heard are counted, and do nothing. -/
theorem perform_of_deaf (a : Answers) (source : KeySource) {sender : Option String}
    (deaf : ¬v.Hears sender step) :
    ∃ n reply, perform a (.receive sender step) v source =
      ⟨{ v with activity := n }, source, [], reply⟩ := by
  obtain ⟨-, same⟩ | ⟨-, t⟩ := perform_cases a (.receive sender step) v source
  · exact ⟨v.activity, .waiting, same⟩
  · have unheard : ¬(v.counted (.receive sender step)).Hears sender step := by
      intro hears
      refine deaf ⟨?_, ?_⟩
      · simpa [isStray] using hears.near
      · simpa using hears.kept
    have silent : ∃ reply, perform a (.receive sender step) v source =
        ⟨v.counted (.receive sender step), source, [], reply⟩ := by
      generalize v.counted (.receive sender step) = c at t unheard
      generalize perform a (.receive sender step) v source = o at t
      cases t with
      | ended | ignored => exact ⟨_, rfl⟩
      | refused action => cases action
      | cancels running why =>
        cases why with
        | readyUnsupported hears | startUnsupported hears | secondStart hears | runless hears
        | unreadable hears | unexpected hears => exact absurd hears unheard
      | turn state machine feeds =>
        cases feeds with
        | accepted hears | key hears | mac hears => exact absurd hears unheard
      | answeredElsewhere hears | cancelledByThem running hears | receivedReady hears
      | receivedStart hears | keptStart hears | lostStart hears | doneFirst hears
      | doneLast hears => exact absurd hears unheard
    obtain ⟨reply, silent⟩ := silent
    obtain ⟨n, counted⟩ := exists_counted v (.receive sender step)
    rw [silent, counted]
    exact ⟨n, reply, rfl⟩

/-- Steps of a device other than the chosen one are counted, and do nothing. -/
theorem perform_of_stray (a : Answers) (source : KeySource) {sender : Option String}
    (stray : isStray v sender step = true) :
    ∃ n reply, perform a (.receive sender step) v source =
      ⟨{ v with activity := n }, source, [], reply⟩ :=
  perform_of_deaf a source fun hears => absurd (hears.near.symm.trans stray) (by simp)

/-- Once a run was lost, its steps are counted, and do nothing. -/
theorem perform_of_lost (a : Answers) (source : KeySource) (sender : Option String)
    (lost : v.sasLost = true) (run : isRunStep step = true) :
    ∃ n reply, perform a (.receive sender step) v source =
      ⟨{ v with activity := n }, source, [], reply⟩ :=
  perform_of_deaf a source fun hears => by simpa [lost, run] using hears.kept

/-! ## Requests of ours -/

/-- What an operation makes of a request of ours that nobody has answered. -/
inductive Asked (op : Operation) (v : Verification) : Prop where
  /-- Nobody answers. -/
  | waits (unknown : v.theirDevice = none) (state : v.state = .ownRequest)
      (unnamed : ∀ step, op = .receive none step → step.fromDevice? = none)
  /-- The request is at its end. -/
  | ends (unknown : v.theirDevice = none) (terminal : v.isTerminal = true)
  /-- The device of the answer is chosen. -/
  | chooses {sender : Option String} {step : Step} {device : String}
      (answer : op = .receive sender step) (named : step.fromDevice? = some device)
      (known : v.theirDevice = some device)

theorem Transition.asked (t : Transition a v source op o) (state : v.state = .ownRequest)
    (unknown : v.theirDevice = none) (kept : v.sasLost = false) : Asked op o.verification := by
  have ends : ∀ {s : State}, s.isTerminal = true → Asked op (v.enter s) := fun terminal =>
    .ends ((enter_theirDevice _ _).trans unknown) ((enter_isTerminal _ _).trans terminal)
  have still : v.state.isRunning = false := by rw [state]; rfl
  cases t with
  | ended terminal => exact .ends unknown terminal
  | refused action =>
    refine .waits unknown state ?_
    rintro step rfl
    cases action
  | cancels | abort | yield | cancelledByThem | replayedCancel =>
    dsimp only
    apply ends
    rfl
  | settled running lost => cases kept.symm.trans lost
  | ready other | start other | answeredElsewhere _ other | doneLast _ other
  | replayedReady other => cases state.symm.trans other
  | turn running | keptStart _ running | lostStart _ running => cases still.symm.trans running
  | @ignored sender step reply running deaf =>
    refine .waits unknown state ?_
    rintro step' same
    obtain ⟨rfl, rfl⟩ : sender = none ∧ step = step' := by simpa using same
    have near : isStray v none step = false := by rw [isStray, unknown]
    have hears : v.Hears none step := ⟨near, by rw [kept]; rfl⟩
    exact absurd hears deaf
  | receivedReady => exact .chooses rfl rfl (enter_theirDevice _ _)
  | receivedStart hears _ supported met adopted =>
    cases met with
    | known known =>
      rw [unknown] at known
      cases known
    | chosen => exact .chooses rfl rfl adopted.theirDevice_eq
  | doneFirst hears why =>
    rcases why with running | ⟨-, lost⟩
    · cases still.symm.trans running
    · cases kept.symm.trans lost
  | replayedLate | replayedDone | replayedRun | unsettled =>
    refine .waits unknown state ?_
    rintro step same
    cases same

/-- The first answer that is heard names the device that is verified, or ends the request. -/
theorem asked_perform (a : Answers) (op : Operation) (source : KeySource)
    (state : v.state = .ownRequest) (unknown : v.theirDevice = none) (kept : v.sasLost = false)
    (free : v.held = false) : Asked op (perform a op v source).verification := by
  obtain ⟨held, -⟩ | ⟨-, t⟩ := perform_cases a op v source
  · cases free.symm.trans held
  · exact t.asked ((counted_state v op).trans state) ((counted_theirDevice v op).trans unknown)
      ((counted_sasLost v op).trans kept)

/-- What becomes of a request of ours, given the device of the first answer that was heard: the
device is chosen, unless the request was at its end by then. -/
def Decided (v : Verification) : Option String → Prop
  | none => v.theirDevice = none ∧ (v.state = .ownRequest ∨ v.IsSettled)
  | some device => v.theirDevice = some device ∨ v.theirDevice = none ∧ v.IsSettled

/-- The first answer decides. -/
theorem Decided.perform {first next : Option String} (h : Decided v first)
    (kept : v.sasLost = false) (live : op.IsLive) (a : Answers) (source : KeySource)
    (answers : ∀ device, next = some device ↔
      ∃ step, op = .receive none step ∧ step.fromDevice? = some device) :
    Decided (perform a op v source).verification (first.or next) := by
  by_cases settled : v.IsSettled
  · obtain ⟨reply, same⟩ := settled.perform_eq a op source
    rw [same]
    cases first with
    | some device => exact h
    | none =>
      cases next with
      | none => exact h
      | some device => exact .inr ⟨h.1, settled⟩
  · have free : v.held = false := Bool.eq_false_iff.2 fun held => settled (.inr held)
    cases first with
    | none =>
      obtain ⟨unknown, asks⟩ := h
      have state := asks.resolve_right settled
      rw [Option.none_or]
      cases asked_perform a op source state unknown kept free with
      | waits unknown' state' unnamed =>
        have silent : next = none := by
          refine Option.eq_none_iff_forall_ne_some.2 fun device answered => ?_
          obtain ⟨step, rfl, named⟩ := (answers device).1 answered
          cases (unnamed step rfl).symm.trans named
        rw [silent]
        exact ⟨unknown', .inl state'⟩
      | ends unknown' terminal =>
        cases next with
        | none => exact ⟨unknown', .inr (.inl terminal)⟩
        | some device => exact .inr ⟨unknown', .inl terminal⟩
      | @chooses sender step device answer named known =>
        subst answer
        obtain rfl := live.sender_eq_none
        rw [(answers device).2 ⟨step, rfl, named⟩]
        exact .inl known
    | some device =>
      have known : v.theirDevice = some device := by
        rcases h with known | ⟨-, settled'⟩
        · exact known
        · exact absurd settled' settled
      exact .inl (theirDevice_perform a source known live)

end DeviceVerification.Verification
