import DeviceVerification.Proofs.Peers.Machine
import DeviceVerification.Proofs.Verification.Final

/-!
# What operations leave alone

No operation changes who verifies whom (`SameTerms`), only a ready or start that is heard changes
the device of the counterpart and the route (`Pins`), and few operations can bring a verification to
a particular end. Each lemma reads one such frame condition off the cases of `Transition`: a run is
only lost to own steps in the history, `undefined` is only for runs that were lost, and a device
only yields where it is told to, or where its request was withdrawn.
-/

namespace DeviceVerification.Verification

open Progress

variable {a : Answers} {v w v' : Verification} {source : KeySource} {op : Operation} {o : Outcome}
  {turn : Sas.Turn} {effects : List Effect} {content : StartContent} {device : String}

/-! ## Who verifies whom -/

/-- Two verifications are of the same request and the same device of ours. -/
structure SameTerms (v v' : Verification) : Prop where
  own : v'.own = v.own
  request : v'.request = v.request

namespace SameTerms

theorem refl (v : Verification) : SameTerms v v := ⟨rfl, rfl⟩

theorem trans (h : SameTerms v v') (h' : SameTerms v' w) : SameTerms v w :=
  ⟨h'.own.trans h.own, h'.request.trans h.request⟩

theorem theirUser (h : SameTerms v v') : v'.theirUser = v.theirUser :=
  congrArg Request.theirUser h.request

theorem transaction (h : SameTerms v v') : v'.transaction = v.transaction :=
  congrArg Request.transaction h.request

end SameTerms

theorem sameTerms_counted (v : Verification) (op : Operation) : SameTerms v (v.counted op) :=
  ⟨counted_own v op, counted_request v op⟩

theorem sameTerms_completed (v : Verification) : SameTerms v (completed v) :=
  ⟨enter_own _ _, enter_request _ _⟩

theorem Adopted.sameTerms (h : Adopted v content v' effects) : SameTerms v v' := by
  cases h with
  | stranger => exact .refl v
  | adopted | unagreed => exact ⟨enter_own _ _, enter_request _ _⟩

theorem Met.sameTerms (h : Met v device v' effects) : SameTerms v v' := by
  cases h with
  | known => exact .refl v
  | chosen => exact ⟨rfl, rfl⟩

theorem Followed.sameTerms (h : Followed a v turn v' effects) : SameTerms v v' := by
  cases h with
  | proceed => exact .refl v
  | recorded => exact sameTerms_completed v
  | refused | cancelled => exact ⟨enter_own _ _, enter_request _ _⟩
  | pending => exact ⟨rfl, rfl⟩

theorem Transition.sameTerms (t : Transition a v source op o) : SameTerms v o.verification := by
  cases t with
  | ended | refused | ignored | keptStart | replayedLate | unsettled => exact .refl v
  | cancels | abort | yield | ready | answeredElsewhere | cancelledByThem | replayedReady
  | replayedCancel | settled | start | receivedReady | doneLast =>
    exact ⟨enter_own _ _, enter_request _ _⟩
  | doneFirst | replayedDone | replayedRun => exact ⟨rfl, rfl⟩
  | turn state machine feeds change followed =>
    have moved := followed.sameTerms
    exact ⟨moved.own, moved.request⟩
  | lostStart hears state pending higher adopted =>
    have moved := adopted.sameTerms
    exact ⟨moved.own, moved.request⟩
  | receivedStart hears state supported met adopted => exact met.sameTerms.trans adopted.sameTerms

/-- An operation that is not held back is a transition. -/
theorem perform_cases (a : Answers) (op : Operation) (v : Verification) (source : KeySource) :
    v.held = true ∧ perform a op v source = ⟨v, source, [], .waiting⟩ ∨
      v.held = false ∧ Transition a (v.counted op) source op (perform a op v source) := by
  cases held : v.held with
  | true => exact .inl ⟨rfl, perform_of_held held a op source⟩
  | false => exact .inr ⟨rfl, transition_of_perform held op⟩

/-- No operation changes who verifies whom. -/
theorem sameTerms_perform (a : Answers) (op : Operation) (v : Verification) (source : KeySource) :
    SameTerms v (perform a op v source).verification := by
  obtain ⟨-, same⟩ | ⟨-, t⟩ := perform_cases a op v source
  · rw [same]
    exact .refl v
  · exact (sameTerms_counted v op).trans t.sameTerms

/-! ## The device and the route -/

theorem Adopted.theirDevice_eq (h : Adopted v content v' effects) :
    v'.theirDevice = v.theirDevice := by
  cases h with
  | stranger => rfl
  | adopted | unagreed => exact enter_theirDevice _ _

theorem Adopted.route_eq (h : Adopted v content v' effects) : v'.route = v.route := by
  cases h with
  | stranger => rfl
  | adopted | unagreed => exact enter_route _ _

/-- A start that is put into effect for a device that is known leaves the request answered. -/
theorem Adopted.answered (h : Adopted v content v' effects) (known : v.theirDevice = some device) :
    v'.state ≠ .ownRequest := by
  cases h with
  | stranger unknown =>
    rw [context?, known] at unknown
    cases unknown
  | adopted | unagreed =>
    rw [enter_state]
    exact nofun

theorem Followed.theirDevice_eq (h : Followed a v turn v' effects) :
    v'.theirDevice = v.theirDevice := by
  cases h with
  | proceed | pending => rfl
  | recorded | refused | cancelled => exact enter_theirDevice _ _

theorem Followed.route_eq (h : Followed a v turn v' effects) : v'.route = v.route := by
  cases h with
  | proceed | pending => rfl
  | recorded => exact completed_route v
  | refused | cancelled => exact enter_route _ _

/-- What an operation does to the device of the counterpart and to the route of our steps. -/
inductive Pins (op : Operation) (v v' : Verification) : Prop where
  | keeps (device : v'.theirDevice = v.theirDevice) (route : v'.route = v.route)
  /-- The device that a step names is chosen, as long as none is known or our request waits. -/
  | fixes {sender : Option String} {step : Step} {device : String}
      (heard : op = .receive sender step) (near : isStray v sender step = false)
      (named : step.fromDevice? = some device)
      (unanswered : v.theirDevice = none ∨ v.state = .ownRequest)
      (known : v'.theirDevice = some device) (route : v'.route = v.route.narrow device)
      (answered : v'.state ≠ .ownRequest)

theorem Transition.pins (t : Transition a v source op o) : Pins op v o.verification := by
  cases t with
  | ended | refused | ignored | keptStart | replayedLate | unsettled | doneFirst | replayedDone
  | replayedRun => exact .keeps rfl rfl
  | cancels | abort | yield | ready | start | answeredElsewhere | cancelledByThem | doneLast
  | replayedReady | replayedCancel | settled =>
    exact .keeps (enter_theirDevice _ _) (enter_route _ _)
  | turn state machine feeds change followed =>
    exact .keeps followed.theirDevice_eq followed.route_eq
  | lostStart hears state pending higher adopted =>
    exact .keeps adopted.theirDevice_eq adopted.route_eq
  | receivedReady hears state =>
    refine .fixes rfl hears.near rfl (.inr state) (enter_theirDevice _ _) (enter_route _ _) ?_
    rw [enter_state]
    exact nofun
  | receivedStart hears state supported met adopted =>
    cases met with
    | known => exact .keeps adopted.theirDevice_eq adopted.route_eq
    | chosen unknown =>
      exact .fixes rfl hears.near rfl (.inl unknown) adopted.theirDevice_eq adopted.route_eq
        (adopted.answered rfl)

theorem pins_perform (a : Answers) (op : Operation) (v : Verification) (source : KeySource) :
    Pins op v (perform a op v source).verification := by
  obtain ⟨-, same⟩ | ⟨-, t⟩ := perform_cases a op v source
  · rw [same]
    exact .keeps rfl rfl
  · cases t.pins with
    | keeps device route =>
      exact .keeps (device.trans (counted_theirDevice v op)) (route.trans (counted_route v op))
    | fixes heard near named unanswered known route answered =>
      rw [isStray, counted_theirDevice] at near
      rw [counted_theirDevice, counted_state] at unanswered
      rw [counted_route] at route
      exact .fixes heard near named unanswered known route answered

/-- A verification in a room stays there. -/
theorem route_perform {roomId : String} (a : Answers) (op : Operation) (source : KeySource)
    (room : v.route = .room roomId) :
    (perform a op v source).verification.route = .room roomId := by
  cases pins_perform a op v source with
  | keeps device route => exact route.trans room
  | fixes _ _ _ _ _ route =>
    rw [route, room]
    rfl

/-! ## Nothing more happens -/

/-- No operation changes a verification any more: it ended, or everything waits behind an answer of
the trust store. -/
def IsSettled (v : Verification) : Prop := v.isTerminal = true ∨ v.held = true

theorem IsSettled.perform_eq (h : IsSettled v) (a : Answers) (op : Operation)
    (source : KeySource) : ∃ reply, perform a op v source = ⟨v, source, [], reply⟩ := by
  rcases h with terminal | held
  · exact perform_of_terminal terminal a op source
  · exact ⟨_, perform_of_held held a op source⟩

/-- A verification that stands down says nothing. -/
theorem effects_yield (a : Answers) (v : Verification) (source : KeySource) :
    (perform a .yieldToOtherDevice v source).effects = [] := by
  obtain ⟨-, same⟩ | ⟨-, t⟩ := perform_cases a .yieldToOtherDevice v source
  · rw [same]
  · generalize perform a .yieldToOtherDevice v source = o at t
    cases t with
    | ended | yield => rfl
    | refused action => cases action
    | cancels running why => cases why
    | turn state machine feeds => cases feeds

/-- A verification that stands down for another device has ended or waits. -/
theorem isSettled_of_yield (a : Answers) (v : Verification) (source : KeySource) :
    IsSettled (perform a .yieldToOtherDevice v source).verification := by
  obtain ⟨held, same⟩ | ⟨-, t⟩ := perform_cases a .yieldToOtherDevice v source
  · rw [same]
    exact .inr held
  · generalize perform a .yieldToOtherDevice v source = o at t
    cases t with
    | ended terminal => exact .inl terminal
    | refused action => cases action
    | cancels running why => cases why
    | turn state machine feeds => cases feeds
    | yield => exact .inl (enter_isTerminal _ _)

/-! ## Runs that are lost -/

theorem Adopted.sasLost_eq (h : Adopted v content v' effects) : v'.sasLost = v.sasLost := by
  cases h with
  | stranger => rfl
  | adopted | unagreed => exact enter_sasLost _ _

theorem Followed.sasLost_eq (h : Followed a v turn v' effects) : v'.sasLost = v.sasLost := by
  cases h with
  | proceed | pending => rfl
  | recorded | refused | cancelled => exact enter_sasLost _ _

/-- A run is only lost to an own step of a run in the history. -/
theorem Transition.sasLost_eq (t : Transition a v source op o)
    (other : ∀ step, op = .replay step → isRunStep step = false) :
    o.verification.sasLost = v.sasLost := by
  cases t with
  | ended | refused | ignored | keptStart | replayedLate | unsettled | doneFirst | replayedDone =>
    rfl
  | cancels | abort | yield | ready | answeredElsewhere | cancelledByThem | replayedReady
  | replayedCancel | settled | start | receivedReady | doneLast => exact enter_sasLost _ _
  | @replayedRun step _ running run => cases (other step rfl).symm.trans run
  | turn state machine feeds change followed => exact followed.sasLost_eq
  | lostStart hears state pending higher adopted => exact adopted.sasLost_eq
  | receivedStart hears state supported met adopted =>
    cases met with
    | known => exact adopted.sasLost_eq
    | chosen => exact adopted.sasLost_eq

theorem sasLost_perform (a : Answers) (v : Verification) (source : KeySource)
    (other : ∀ step, op = .replay step → isRunStep step = false) :
    (perform a op v source).verification.sasLost = v.sasLost := by
  obtain ⟨-, same⟩ | ⟨-, t⟩ := perform_cases a op v source
  · rw [same]
  · exact (t.sasLost_eq other).trans (counted_sasLost v op)

/-- The end of the history settles a verification that goes on and whose run was lost. It changes
nothing else, and it asks nothing of the surroundings. -/
theorem perform_finishReplay (a : Answers) (v : Verification) (source : KeySource) :
    ∃ reply, perform a .finishReplay v source =
      ⟨if v.held = false ∧ v.isTerminal = false ∧ v.sasLost = true then
          v.enter (settled v.ownDone v.theirDone)
        else v, source, [], reply⟩ := by
  obtain ⟨held, same⟩ | ⟨free, t⟩ := perform_cases a .finishReplay v source
  · rw [same, if_neg (by simp [held])]
    exact ⟨_, rfl⟩
  · have same : v.counted .finishReplay = v := rfl
    rw [same] at t
    generalize perform a .finishReplay v source = o at t
    cases t with
    | ended terminal =>
      rw [if_neg (by simp [terminal])]
      exact ⟨_, rfl⟩
    | refused action => cases action
    | cancels running why => cases why
    | turn state machine feeds => cases feeds
    | settled running lost =>
      rw [if_pos ⟨free, running, lost⟩]
      exact ⟨_, rfl⟩
    | unsettled kept =>
      rw [if_neg (by simp [kept])]
      exact ⟨_, rfl⟩

/-- The end of the history changes nothing where no run was lost. -/
theorem finishReplay_of_kept (kept : v.sasLost = false) (a : Answers) (source : KeySource) :
    ∃ reply, perform a .finishReplay v source = ⟨v, source, [], reply⟩ := by
  simpa [kept] using perform_finishReplay a v source

/-! ## Particular ends -/

/-- A state that is only entered by name: neither a run nor its end leads to it. -/
def State.IsRare (s : State) : Prop := s = .acceptedByOtherDevice ∨ s = .undefined

theorem Adopted.of_isRare (h : Adopted v content v' effects) (rare : v'.state.IsRare) :
    v.state.IsRare := by
  cases h with
  | stranger => exact rare
  | adopted | unagreed =>
    rw [enter_state] at rare
    rcases rare with rare | rare <;> cases rare

theorem Followed.of_isRare (h : Followed a v turn v' effects) (rare : v'.state.IsRare) :
    v.state.IsRare := by
  cases h with
  | proceed => exact rare
  | pending => exact rare
  | recorded =>
    simp only [completed, enter_state] at rare
    split at rare <;> rcases rare with rare | rare <;> cases rare
  | refused | cancelled =>
    rw [enter_state] at rare
    rcases rare with rare | rare <;> cases rare

/-- How a verification comes to a rare end. -/
inductive RareEnd (v : Verification) : Operation → State → Prop where
  | yield : RareEnd v .yieldToOtherDevice .acceptedByOtherDevice
  | answeredElsewhere {sender : Option String} {content : CancelContent}
      (state : v.state = .theirRequest) (code : content.code = .accepted) :
      RareEnd v (.receive sender (.cancel content)) .acceptedByOtherDevice
  | unrestored (lost : v.sasLost = true) : RareEnd v .finishReplay .undefined

theorem Transition.rareEnd (t : Transition a v source op o)
    (rare : o.verification.state.IsRare) (before : ¬v.state.IsRare) :
    RareEnd v op o.verification.state := by
  have never : ∀ {s : State}, s.IsRare → s ≠ .acceptedByOtherDevice → s ≠ .undefined → False :=
    fun rare h h' => rare.elim h h'
  cases t with
  | ended | refused | ignored | keptStart | replayedLate | unsettled | doneFirst | replayedDone
  | replayedRun => exact absurd rare before
  | yield =>
    rw [enter_state]
    exact .yield
  | answeredElsewhere hears state code =>
    rw [enter_state]
    exact .answeredElsewhere state code
  | settled running lost =>
    rw [enter_state] at rare ⊢
    unfold Progress.settled at rare ⊢
    split at rare <;> first
      | exact .unrestored lost
      | exact (never rare (by simp) (by simp)).elim
  | cancels | abort | ready | cancelledByThem | replayedReady | replayedCancel | start
  | receivedReady | doneLast =>
    simp only [begun, enter_state] at rare
    exact (never rare (by simp) (by simp)).elim
  | turn state machine feeds change followed => exact absurd (followed.of_isRare rare) before
  | lostStart hears state pending higher adopted => exact absurd (adopted.of_isRare rare) before
  | receivedStart hears state supported met adopted =>
    cases met with
    | known => exact absurd (adopted.of_isRare rare) before
    | chosen => exact absurd (adopted.of_isRare rare) before

/-- A verification that comes to a rare end was told to. -/
theorem rareEnd_of_perform (a : Answers) (v : Verification) (source : KeySource)
    (rare : (perform a op v source).verification.state.IsRare) (before : ¬v.state.IsRare) :
    RareEnd v op (perform a op v source).verification.state := by
  obtain ⟨-, same⟩ | ⟨-, t⟩ := perform_cases a op v source
  · rw [same] at rare
    exact absurd rare before
  · have counted : (v.counted op).state = v.state := counted_state v op
    have ending := t.rareEnd rare (by rwa [counted])
    generalize (perform a op v source).verification.state = ended at ending
    cases ending with
    | yield => exact .yield
    | answeredElsewhere state code => exact .answeredElsewhere (counted.symm.trans state) code
    | unrestored lost => exact .unrestored (by simpa using lost)

/-- A verification is only undefined where a run was lost. -/
theorem lost_of_undefined (a : Answers) (op : Operation) (source : KeySource)
    (before : v.state = .undefined → v.sasLost = true)
    (undefined : (perform a op v source).verification.state = .undefined) :
    (perform a op v source).verification.sasLost = true := by
  by_cases ended : v.state.IsRare
  · have terminal : v.isTerminal = true := by
      unfold isTerminal
      rcases ended with state | state <;> rw [state] <;> rfl
    obtain ⟨reply, same⟩ := perform_of_terminal terminal a op source
    rw [same] at undefined ⊢
    exact before undefined
  · have ending := rareEnd_of_perform a v source (.inr undefined) ended
    rw [undefined] at ending
    cases ending with
    | unrestored lost => exact (sasLost_perform a v source (by simp)).trans lost

end DeviceVerification.Verification
