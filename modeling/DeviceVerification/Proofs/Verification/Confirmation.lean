import Mathlib.Data.List.Permutation
import DeviceVerification.Proofs.Sas.Exchange
import DeviceVerification.Proofs.Verification.Succession
import DeviceVerification.Proofs.Verification.Trust

/-!
# The order of a confirmation

A comparison ends with three things that nobody puts in order: the user confirms, the MACs of the
counterpart come in, and so does its done step. MACs that come in early are held and a done step is
noted, and neither makes a difference: any two of the three swap (`Progress.swap_confirm_mac`,
`Progress.swap_confirm_done`, `Progress.swap_mac_done`), so all orders lead to one end, which is
that of a single turn that sends our MACs and judges theirs (`confirmation_order_is_free`).
-/

namespace DeviceVerification.Verification

open Progress

namespace Progress

variable (a : Answers) (p : Progress)

/-! ## What each of the three does -/

/-- What the machine makes of a confirmation. It is left alone where the confirmation is refused. -/
def confirmation (v : Verification) (m : Sas.Machine) : Sas.Machine × Sas.Turn :=
  match bothKeys a v with
  | .error _ => (m, .idle)
  | .ok (own, theirs) =>
    match m.confirm own theirs with
    | .error _ => (m, .idle)
    | .ok turn => turn

/-- What the machine makes of MACs that come in. It is left alone where they are not heard. -/
def authentication (sender : Option String) (content : MacContent) (v : Verification)
    (m : Sas.Machine) : Sas.Machine × Sas.Turn :=
  if isStray v sender (.mac content) || v.sasLost then (m, .idle)
  else
    match theirKeys a v with
    | .error e => (m, .cancel ⟨.user, "failed to read keys: " ++ e.message⟩)
    | .ok theirs => m.handleMac content theirs

/-- The verification that has counted a step. -/
def tallied (v : Verification) : Verification := { v with activity := v.activity + 1 }

/-- The verification that has counted a done step, and noted it unless it is stray. -/
def noted (sender : Option String) (v : Verification) : Verification :=
  { v with
    activity := v.activity + 1
    theirDone := v.theirDone || !isStray v sender .done }

section

variable {a p} {m : Sas.Machine} {sender : Option String} {content : MacContent}
  (running : p.verification.state.isRunning = true) (free : p.verification.held = false)

/-- A turn of a machine that stays as it is. -/
theorem run_same (machine : p.verification.machine = some m) (turn : Sas.Turn) :
    p.run a (m, turn) = p.follow a turn := by
  obtain ⟨v, source, effects⟩ := p
  simp [run, update, ← machine]

/-- A turn that does nothing. -/
theorem run_idle (machine : p.verification.machine = some m) : p.run a (m, .idle) = p :=
  run_same machine .idle

include running free in
theorem next_confirm (machine : p.verification.machine = some m) :
    p.next a (.act m.generation .confirm) =
      p.run a.delivering (confirmation a p.verification m) := by
  obtain ⟨method, device, generation, state⟩ := State.isRunning_iff.1 running
  have acted : perform a.delivering (.act m.generation .confirm) p.verification p.source =
      (begin p.verification p.source).confirmCodes a.delivering m := by
    simp [perform, free, Progress.act, state, machine]
  have both : bothKeys a.delivering p.verification = bothKeys a p.verification := rfl
  unfold confirmCodes at acted
  rw [begin_verification, both] at acted
  unfold confirmation
  split
  · rename_i e unread
    rw [run_idle machine]
    simp only [unread] at acted
    exact next_of_refuse acted
  · rename_i own theirs read
    simp only [read] at acted
    split
    · rename_i e refused
      rw [run_idle machine]
      simp only [refused] at acted
      exact next_of_refuse acted
    · rename_i turn confirmed
      simp only [confirmed] at acted
      rw [next_of_report acted, run_behind, begin_behind]

include free in
/-- A step that comes in is counted, and taken unless it is stray or part of a run that was lost. -/
theorem perform_receive (unended : p.verification.isTerminal = false) (sender : Option String)
    (step : Step) :
    perform a.delivering (.receive sender step) p.verification p.source =
      (if isStray p.verification sender step || p.verification.sasLost && isRunStep step then
          begin (tallied p.verification) p.source
        else (begin (tallied p.verification) p.source).apply a.delivering step).silent := by
  unfold perform receive
  simp only [free, Bool.false_eq_true, ↓reduceIte, begin_verification, unended]
  have counted : (begin p.verification p.source).update
      (fun v => { v with activity := v.activity + 1 }) =
      begin (tallied p.verification) p.source := rfl
  have near : isStray (tallied p.verification) sender step = isStray p.verification sender step :=
    rfl
  rw [counted, begin_verification, near]
  cases isStray p.verification sender step with
  | true => rfl
  | false => rfl

include running free in
theorem next_mac (machine : p.verification.machine = some m) :
    p.next a (.receive sender (.mac content)) =
      (p.update tallied).run a.delivering (authentication a sender content p.verification m) := by
  obtain ⟨method, device, generation, state⟩ := State.isRunning_iff.1 running
  have machine : (p.update tallied).verification.machine = some m := machine
  have known : theirKeys a.delivering (tallied p.verification) = theirKeys a p.verification := rfl
  have told : (begin (tallied p.verification) p.source).apply a.delivering (.mac content) =
      (begin (tallied p.verification) p.source).receiveMac a.delivering content := by
    have same : (tallied p.verification).state = .start method device generation := state
    simp only [Progress.apply, begin_verification, same]
  have handed : (begin (tallied p.verification) p.source).verification.machine = some m := machine
  unfold receiveMac withMachine at told
  simp only [begin_verification, known] at told handed
  simp only [handed] at told
  have received := perform_receive (a := a) free (State.isTerminal_of_isRunning running) sender
    (.mac content)
  have run : isRunStep (.mac content) = true := rfl
  rw [run, Bool.and_true, told] at received
  unfold authentication
  split
  · rename_i deaf
    rw [if_pos deaf] at received
    rw [run_idle machine, next_of_silent received, begin_behind]
    rfl
  · rename_i heard
    rw [if_neg heard] at received
    split
    · rename_i e unread
      simp only [unread] at received
      rw [next_of_silent received, cancel_behind, begin_behind, run_same machine]
      rfl
    · rename_i theirs read
      simp only [read] at received
      rw [next_of_silent received, run_behind, begin_behind]
      rfl

include running free in
theorem next_done : p.next a (.receive sender .done) = p.update (noted sender) := by
  obtain ⟨method, device, generation, state⟩ := State.isRunning_iff.1 running
  have received := perform_receive (a := a) free (State.isTerminal_of_isRunning running) sender
    .done
  have same : (tallied p.verification).state = .start method device generation := state
  simp only [isRunStep, Step.kind, Bool.and_false, Bool.or_false, Progress.apply,
    begin_verification, same] at received
  rw [next_of_silent received]
  cases near : isStray p.verification sender .done with
  | true => simp [behind, begin, update, tallied, noted, near]
  | false => simp [behind, begin, update, tallied, noted, near]

end

/-! ## The done step -/

section

variable {a p} {sender : Option String}

/-- Sending does not depend on what is changed beside the route. -/
theorem sends_update (f : Verification → Verification) (route : ∀ v, (f v).route = v.route)
    (steps : List Step) :
    steps.foldl (fun p step => p.send a step) (p.update f) =
      (steps.foldl (fun p step => p.send a step) p).update f := by
  induction steps generalizing p with
  | nil => rfl
  | cons step steps ih =>
    have sent : (p.update f).send a step = (p.send a step).update f := by
      simp [send, update, route, messages]
    rw [List.foldl_cons, List.foldl_cons, sent, ih]

theorem sends_verification (steps : List Step) :
    (steps.foldl (fun p step => p.send a step) p).verification = p.verification := by
  obtain ⟨effects, reached, -⟩ := reaches_sends a steps p
  exact reached.verification

/-- A verification that waits for the done step of the counterpart takes it, unless it is stray. -/
theorem next_done_of_waiting {isOwn : Bool} (state : p.verification.state = .waitForDone isOwn)
    (free : p.verification.held = false) :
    p.next a (.receive sender .done) =
      p.update fun v =>
        if isStray v sender .done then tallied v else (noted sender v).enter .done := by
  have unended : p.verification.isTerminal = false := by simp [isTerminal, state, State.isTerminal]
  have received := perform_receive (a := a) free unended sender .done
  have same : (tallied p.verification).state = .waitForDone isOwn := state
  simp only [isRunStep, Step.kind, Bool.and_false, Bool.or_false, Progress.apply,
    begin_verification, same] at received
  rw [next_of_silent received]
  cases near : isStray p.verification sender .done with
  | true => simp [behind, begin, update, near]
  | false => simp [behind, begin, update, tallied, noted, near, Progress.enter]

variable (running : p.verification.state.isRunning = true) (free : p.verification.held = false)

include running in
/-- A done step after a cancellation comes too late. -/
theorem akin_done_cancel (content : CancelContent) :
    ((p.cancel a.delivering content).next a (.receive sender .done)).Akin
      ((p.update (noted sender)).cancel a.delivering content) := by
  have unended : p.verification.isTerminal = false := State.isTerminal_of_isRunning running
  have unended' : (p.update (noted sender)).verification.isTerminal = false := unended
  unfold cancel
  rw [if_neg (by simp [unended]), if_neg (by simp [unended']),
    next_of_isSettled _ _ (.inl (enter_isTerminal _ _))]
  refine .of_isSettled (.inl (enter_isTerminal _ _)) (.inl (enter_isTerminal _ _)) ?_ rfl ?_
  · simp [send, Progress.enter, update]
  · simp [send, Progress.enter, update, noted, messages, Answers.delivering]

theorem completed_state (v : Verification) :
    (completed v).state = if v.theirDone then .done else .waitForDone true :=
  enter_state _ _

/-- Noting a done step after our side is finished ends where noting it before does. -/
theorem completed_noted {v : Verification} (first : v.theirDone = false) :
    (if isStray (completed v) sender .done then tallied (completed v)
      else (noted sender (completed v)).enter .done) = completed (noted sender v) := by
  have near : isStray (completed v) sender .done = isStray v sender .done := by
    simp [isStray, completed, release]
  have waiting : completed v = { v.release with ownDone := true, state := .waitForDone true } := by
    simp only [completed, release, first]
    rfl
  cases stray : isStray v sender .done with
  | true =>
    rw [near, stray, if_pos rfl, waiting]
    simp only [completed, noted, release, first, stray]
    rfl
  | false =>
    rw [near, stray, if_neg (by simp), noted, near, stray, waiting]
    simp only [completed, noted, release, first, stray]
    rfl

include free in
/-- A done step comes too late if it is the second one, and otherwise it is as good as an early
one. -/
theorem akin_done_completed :
    (((p.update completed).send a.delivering .done).next a (.receive sender .done)).Akin
      (((p.update (noted sender)).update completed).send a.delivering .done) := by
  have route (v : Verification) : (completed v).route = v.route := completed_route v
  have effects : (p.effects ++ [.send (completed p.verification).route .done none]) =
      p.effects ++ [.send (completed (noted sender p.verification)).route .done none] := by
    rw [route, route]
    rfl
  cases theirDone : p.verification.theirDone with
  | true =>
    have state : (completed p.verification).state = .done := by simp [completed_state, theirDone]
    have state' : (completed (noted sender p.verification)).state = .done := by
      simp [completed_state, noted, theirDone]
    have left : (completed p.verification).IsSettled :=
      .inl (by rw [isTerminal, state]; rfl)
    have right : (completed (noted sender p.verification)).IsSettled :=
      .inl (by rw [isTerminal, state']; rfl)
    rw [next_of_isSettled _ _ left]
    exact .of_isSettled left right (state.trans state'.symm) rfl effects
  | false =>
    have state : (completed p.verification).state = .waitForDone true := by
      simp [completed_state, theirDone]
    have free : (completed p.verification).held = false := by
      simpa [completed, release] using free
    rw [next_done_of_waiting state free]
    have same : ((p.update completed).send a.delivering .done).update (fun v =>
        if isStray v sender .done then tallied v else (noted sender v).enter .done) =
        ((p.update (noted sender)).update completed).send a.delivering .done := by
      show Progress.mk (if isStray (completed p.verification) sender .done then
          tallied (completed p.verification)
        else (noted sender (completed p.verification)).enter .done) p.source
          (p.effects ++ [.send (completed p.verification).route .done none]) = _
      rw [completed_noted theirDone, effects]
      rfl
    rw [same]
    exact .refl _

include running free in
/-- A done step makes no difference to keys that are trusted, or it comes too late. -/
theorem akin_done_complete (keys : List VerifiableKey) :
    ((p.complete a.delivering keys).next a (.receive sender .done)).Akin
      ((p.update (noted sender)).complete a.delivering keys) := by
  have user : (p.update (noted sender)).verification.theirUser = p.verification.theirUser := rfl
  unfold complete
  rw [user]
  cases a.delivering.trusting p.verification.theirUser keys with
  | recorded =>
    exact akin_done_completed (p := { p with effects := p.effects ++ [.trust keys .recorded] }) free
  | refused e =>
    exact akin_done_cancel (p := { p with effects := p.effects ++ [.trust keys (.refused e)] })
      running _
  | pending =>
    simp only
    rw [next_of_isSettled _ _ (.inr rfl)]
    exact .settled (.inr rfl) (.inr rfl) rfl

include running free in
/-- A done step makes no difference to a turn. -/
theorem akin_done_follow (turn : Sas.Turn) :
    ((p.follow a.delivering turn).next a (.receive sender .done)).Akin
      ((p.update (noted sender)).follow a.delivering turn) := by
  unfold follow
  rw [sends_update (noted sender) fun _ => rfl]
  have same := sends_verification (a := a.delivering) (p := p) turn.outbound
  generalize turn.outbound.foldl (fun p step => p.send a.delivering step) p = q at same ⊢
  rw [← same] at running free
  cases turn.verdict with
  | proceed =>
    rw [next_done running free]
    exact .refl _
  | verified keys => exact akin_done_complete running free keys
  | cancel content => exact akin_done_cancel running content

include running free in
theorem akin_done_run (turn : Sas.Machine × Sas.Turn) :
    ((p.run a.delivering turn).next a (.receive sender .done)).Akin
      ((p.update (noted sender)).run a.delivering turn) :=
  akin_done_follow (p := p.update fun v => { v with machine := some turn.1 }) running free turn.2

end

/-! ## Orders -/

section

variable {a p} {m : Sas.Machine} {sender doneSender : Option String} {content : MacContent}

/-- The machine that holds these MACs, if any. -/
def holding (m : Sas.Machine) (pending : Option MacContent) : Sas.Machine :=
  { m with pendingMac := pending }

theorem holding_none (first : m.pendingMac = none) : holding m none = m := by
  rw [holding, ← first]

/-- A confirmation is refused, or our MACs go out and those that are held are judged; which of the
two does not depend on what is held. -/
theorem confirmation_cases (a : Answers) (v : Verification)
    (comparison : m.state.isComparison = true) :
    (∀ pending, confirmation a v (holding m pending) = (holding m pending, .idle)) ∨
      ∃ own theirs ours, bothKeys a v = .ok (own, theirs) ∧
        ∀ pending, confirmation a v (holding m pending) =
          (m.confirmed, ⟨[.mac ours], (holding m pending).judgePending theirs⟩) := by
  cases read : bothKeys a v with
  | error e => exact .inl fun pending => by rw [confirmation, read]
  | ok keys =>
    obtain ⟨own, theirs⟩ := keys
    by_cases agreed : ∃ secret encoding, m.secret = some secret ∧ m.macEncoding? = some encoding
    · obtain ⟨secret, encoding, known, written⟩ := agreed
      obtain ⟨ours, computed⟩ := Sas.macContent_ok secret encoding m.ownPurpose own
      refine .inr ⟨own, theirs, ours, rfl, fun pending => ?_⟩
      have confirmed : (holding m pending).confirm own theirs =
          .ok (m.confirmed, ⟨[.mac ours], (holding m pending).judgePending theirs⟩) :=
        Sas.Machine.confirm_eq comparison known written computed
      simp only [confirmation, read, confirmed]
    · refine .inl fun pending => ?_
      have refused : (holding m pending).confirm own theirs =
          .error (.invalidState "confirm" m.state.name) := by
        unfold Sas.Machine.confirm
        split
        · rename_i secret encoding _ known written
          exact absurd ⟨secret, encoding, known, written⟩ agreed
        · rfl
      simp only [confirmation, read, refused]

variable (running : p.verification.state.isRunning = true) (free : p.verification.held = false)
  (machine : p.verification.machine = some m)

include running free machine

/-- A confirmation that is refused changes nothing. -/
theorem next_confirm_of_idle (refused : confirmation a p.verification m = (m, .idle)) :
    p.next a (.act m.generation .confirm) = p := by
  rw [next_confirm running free machine, refused, run_idle machine]

/-- A confirmation and MACs swap: MACs that come first are held and judged after it. -/
theorem swap_confirm_mac (comparison : m.state.isComparison = true) (first : m.pendingMac = none) :
    (p.next a (.act m.generation .confirm)).next a (.receive sender (.mac content)) =
      (p.next a (.receive sender (.mac content))).next a (.act m.generation .confirm) := by
  let waiting : Sas.Machine := holding m (some content)
  have held (theirs : List VerifiableKey) : m.handleMac content theirs = (waiting, .idle) := by
    simp [Sas.Machine.handleMac, comparison, first, waiting, holding]
  rcases confirmation_cases a p.verification comparison with
    refused | ⟨own, theirs, ours, read, confirmed⟩
  · -- the confirmation is refused before and after the MACs, if the verification goes on at all
    have idle := refused none
    rw [holding_none first] at idle
    rw [next_confirm_of_idle running free machine idle, next_mac running free machine,
      authentication]
    split
    · rw [run_idle (p := p.update tallied) machine]
      exact (next_confirm_of_idle (p := p.update tallied) running free machine idle).symm
    · split
      · rw [run_same (p := p.update tallied) machine]
        exact (next_of_isSettled _ _ (isSettled_cancel _ _ _) _).symm
      · rw [held]
        exact (next_confirm_of_idle (m := waiting)
          (p := (p.update tallied).run a.delivering (waiting, .idle)) running free rfl
          (refused (some content))).symm
  · have sent := confirmed none
    rw [holding_none first, Sas.Machine.judgePending, first] at sent
    have judged : m.confirmed.handleMac content theirs =
        (m.confirmed, ⟨[], m.judge content theirs⟩) := rfl
    rw [next_confirm running free machine, sent,
      next_mac (p := p.run a.delivering (m.confirmed, ⟨[.mac ours], .proceed⟩)) running free rfl,
      next_mac running free machine]
    have same : authentication a sender content (p.run a.delivering
        (m.confirmed, ⟨[.mac ours], .proceed⟩)).verification m.confirmed =
        authentication a sender content p.verification m.confirmed := rfl
    rw [same, authentication, authentication, theirKeys_of_bothKeys read]
    split
    · rw [run_idle (p := p.update tallied) machine, run_idle rfl,
        next_confirm (p := p.update tallied) running free machine]
      have later : confirmation a (p.update tallied).verification m = _ := sent
      rw [later]
      rfl
    · simp only [held, judged]
      have later := next_confirm (a := a) (m := waiting)
        (p := (p.update tallied).run a.delivering (waiting, .idle)) running free rfl
      have turned : confirmation a ((p.update tallied).run a.delivering
        (waiting, .idle)).verification waiting = _ := confirmed (some content)
      rw [turned] at later
      exact later.symm

/-- A confirmation and a done step swap. -/
theorem swap_confirm_done :
    ((p.next a (.act m.generation .confirm)).next a (.receive sender .done)).Akin
      ((p.next a (.receive sender .done)).next a (.act m.generation .confirm)) := by
  have later := next_confirm (a := a) (p := p.update (noted sender)) running free machine
  rw [next_confirm running free machine, next_done running free, later]
  exact akin_done_run running free _

/-- MACs and a done step swap. -/
theorem swap_mac_done :
    ((p.next a (.receive sender (.mac content))).next a (.receive doneSender .done)).Akin
      ((p.next a (.receive doneSender .done)).next a (.receive sender (.mac content))) := by
  have later : (p.update (noted doneSender)).next a (.receive sender (.mac content)) = _ :=
    next_mac running free machine
  rw [next_mac running free machine, next_done running free, later]
  exact akin_done_run (p := p.update tallied) running free _

/-- A confirmation that no MACs wait for leaves a run that goes on. -/
theorem running_next_confirm (comparison : m.state.isComparison = true)
    (first : m.pendingMac = none) :
    ∃ n, (p.next a (.act m.generation .confirm)).verification =
      { p.verification with machine := some n } := by
  rcases confirmation_cases a p.verification comparison with
    refused | ⟨own, theirs, ours, read, confirmed⟩
  · have idle := refused none
    rw [holding_none first] at idle
    exact ⟨m, by rw [next_confirm_of_idle running free machine idle, ← machine]⟩
  · have sent := confirmed none
    rw [holding_none first, Sas.Machine.judgePending, first] at sent
    exact ⟨m.confirmed, by rw [next_confirm running free machine, sent]; rfl⟩

/-- The three come to the same in every order. -/
theorem orders_akin (comparison : m.state.isComparison = true) (first : m.pendingMac = none)
    {ops : List Operation} (order : ops.Perm [.receive doneSender .done,
      .act m.generation .confirm, .receive sender (.mac content)]) :
    (ops.foldl (next a) p).Akin ([.receive doneSender .done, .act m.generation .confirm,
      .receive sender (.mac content)].foldl (next a) p) := by
  let done : Operation := .receive doneSender .done
  let confirm : Operation := .act m.generation .confirm
  let mac : Operation := .receive sender (.mac content)
  have noting : p.next a done = p.update (noted doneSender) := next_done running free
  have confirmMac : (p.next a confirm).next a mac = (p.next a mac).next a confirm :=
    swap_confirm_mac running free machine comparison first
  have confirmMacLate : ((p.next a done).next a confirm).next a mac =
      ((p.next a done).next a mac).next a confirm := by
    rw [noting]
    exact swap_confirm_mac (p := p.update (noted doneSender)) running free machine comparison first
  have confirmDone : ((p.next a confirm).next a done).Akin ((p.next a done).next a confirm) :=
    swap_confirm_done running free machine
  have macDone : ((p.next a mac).next a done).Akin ((p.next a done).next a mac) :=
    swap_mac_done running free machine
  have macDoneLate : (((p.next a confirm).next a mac).next a done).Akin
      (((p.next a confirm).next a done).next a mac) := by
    obtain ⟨n, confirmed⟩ := running_next_confirm (a := a) running free machine comparison first
    exact swap_mac_done (p := p.next a confirm) (m := n) (by rw [confirmed]; exact running)
      (by rw [confirmed]; exact free) (by rw [confirmed])
  have orders := List.mem_permutations'.2 order
  simp only [List.permutations', List.flatMap_cons, List.flatMap_nil, List.permutations'Aux,
    List.map_cons, List.map_nil, List.append_nil, List.cons_append, List.nil_append,
    List.mem_cons, List.not_mem_nil, or_false] at orders
  -- swaps bring every order to the one that starts with the done step and ends with the MACs
  rcases orders with rfl | rfl | rfl | rfl | rfl | rfl
  · exact .refl _
  · exact confirmDone.next mac
  · exact macDoneLate.trans (confirmDone.next mac)
  · show (((p.next a done).next a mac).next a confirm).Akin _
    rw [← confirmMacLate]
    exact .refl _
  · refine (macDone.next confirm).trans ?_
    rw [← confirmMacLate]
    exact .refl _
  · show (((p.next a mac).next a confirm).next a done).Akin _
    rw [← confirmMac]
    exact macDoneLate.trans (confirmDone.next mac)

end

end Progress

/-- The verification once our MACs went out, with the done step of the counterpart noted. -/
def closing (m : Sas.Machine) (v : Verification) : Verification :=
  { v with machine := some m.confirmed, theirDone := true, activity := v.activity + 2 }

/-- Where the three lead when both steps are heard and the keys can be read: our MACs go out, and
theirs are judged. -/
theorem concluded {v : Verification} {m : Sas.Machine} (running : v.state.isRunning = true)
    (free : v.held = false) (machine : v.machine = some m)
    (comparison : m.state.isComparison = true) (first : m.pendingMac = none)
    {secret : SharedSecret} {encoding : MacEncoding} (known : m.secret = some secret)
    (written : m.macEncoding? = some encoding) {a : Answers} {own theirs : List VerifiableKey}
    (read : bothKeys a v = .ok (own, theirs)) {content : MacContent}
    {sender doneSender : Option String} (mac : v.Hears sender (.mac content))
    (done : v.Hears doneSender .done) (source : KeySource) :
    ∃ ours, Sas.macContent secret encoding m.ownPurpose own = .ok ours ∧
      [.receive doneSender .done, .act m.generation .confirm,
        .receive sender (.mac content)].foldl (next a) (begin v source) =
        (begin (closing m v) source).follow a.delivering
          ⟨[.mac ours], m.judge content theirs⟩ := by
  obtain ⟨ours, computed⟩ := Sas.macContent_ok secret encoding m.ownPurpose own
  refine ⟨ours, computed, ?_⟩
  let before := begin { v with activity := v.activity + 1, theirDone := true } source
  have noting : (begin v source).next a (.receive doneSender .done) = before := by
    rw [next_done (p := begin v source) running free]
    simp [before, begin, update, noted, done.near]
  have sent : confirmation a before.verification m = (m.confirmed, ⟨[.mac ours], .proceed⟩) := by
    have read : bothKeys a before.verification = .ok (own, theirs) := read
    have confirmed : m.confirm own theirs =
        .ok (m.confirmed, ⟨[.mac ours], m.judgePending theirs⟩) :=
      Sas.Machine.confirm_eq comparison known written computed
    simp only [confirmation, read, confirmed, Sas.Machine.judgePending, first]
  let sending := before.run a.delivering (m.confirmed, ⟨[.mac ours], .proceed⟩)
  have judged : authentication a sender content sending.verification m.confirmed =
      (m.confirmed, ⟨[], m.judge content theirs⟩) := by
    have near : isStray sending.verification sender (.mac content) = false := mac.near
    have kept : sending.verification.sasLost = false := by
      have kept := mac.kept
      rw [show isRunStep (.mac content) = true from rfl, Bool.and_true] at kept
      exact kept
    have read : theirKeys a sending.verification = .ok theirs := theirKeys_of_bothKeys read
    simp only [authentication, near, kept, read]
    rfl
  rw [List.foldl_cons, noting, List.foldl_cons, next_confirm (p := before) running free machine,
    sent, List.foldl_cons, next_mac (p := sending) running free rfl, judged]
  rfl

/-- **Confirmation order does not matter.** While the users compare and no MACs are held, let the
user confirm, and let MACs and a done step come in, in any order and from whatever devices, in
surroundings that answer alike. All orders end in one state, with the same cancellation if they end
in one, and on the way the same steps are handed out in the same order and the same keys are to be
trusted, so the trust store ends up the same. Where both steps are heard and the keys can be read,
this is the end of a single turn of a verification that has the done step already: it sends our MACs
and follows the verdict on theirs. -/
theorem confirmation_order_is_free {v : Verification} {m : Sas.Machine}
    (running : v.state.isRunning = true) (machine : v.machine = some m)
    (comparison : m.state.isComparison = true) (first : m.pendingMac = none) (a : Answers)
    (source : KeySource) (content : MacContent) (sender doneSender : Option String) :
    ∃ last asked,
      (∀ events, Arranges a [.receive doneSender .done, .act m.generation .confirm,
          .receive sender (.mac content)] events →
        ((Run.begin v source).steps events).Ends last asked) ∧
      ∀ secret encoding own theirs, v.held = false → m.secret = some secret →
        m.macEncoding? = some encoding → bothKeys a v = .ok (own, theirs) →
        v.Hears sender (.mac content) → v.Hears doneSender .done →
        ∃ ours w effects, Sas.macContent secret encoding m.ownPurpose own = .ok ours ∧
          Followed a (closing m v) ⟨[.mac ours], m.judge content theirs⟩ w effects ∧
          last = w.state ∧ asked = effects.map (·.attempted) := by
  let ops : List Operation := [.receive doneSender .done, .act m.generation .confirm,
    .receive sender (.mac content)]
  let ending := ops.foldl (next a) (begin v source)
  refine ⟨ending.verification.state, ending.effects.map (·.attempted), ?_, ?_⟩
  · intro events arranged
    have akin : ((events.map (·.1)).foldl (next a) (begin v source)).Akin ending := by
      cases held : v.held with
      | true =>
        have stays (ops : List Operation) : ops.foldl (next a) (begin v source) = begin v source :=
          foldl_next_of_isSettled a _ (.inr held) ops
        rw [stays, show ending = _ from stays ops]
        exact .refl _
      | false => exact orders_akin running held machine comparison first arranged.order
    have ends := arranged.ends v source
    rw [akin.state, akin.effects] at ends
    exact ends
  · intro secret encoding own theirs free known written read mac done
    obtain ⟨ours, computed, same⟩ := concluded running free machine comparison first known written
      read mac done source
    let turn : Sas.Turn := ⟨[.mac ours], m.judge content theirs⟩
    obtain ⟨w, effects, reached, followed⟩ := reaches_follow a turn (begin (closing m v) source)
      (State.isTerminal_of_isRunning running)
    have asked : ((begin (closing m v) source).follow a turn).effects = effects := reached.effects
    have ended : ending = ((begin (closing m v) source).follow a turn).attempted :=
      same.trans (attempted_follow a (begin (closing m v) source) turn).symm
    refine ⟨ours, w, effects, computed, followed, ?_, ?_⟩
    · rw [ended, attempted_verification, reached.verification]
    · rw [ended, Progress.attempted, asked, List.map_map]
      exact List.map_congr_left fun e _ => e.attempted_attempted

/-! ### Bob confirms -/

section

open Sas Sas.Duet

/-- Bob's run with Alice while he compares, and Alice's MACs have not come in. -/
def sampleComparing : Machine :=
  { Machine.init 1 sampleContext .default false (Settings.default.startContent "ALICE") with
    agreement := some sampleAgreement
    secret := some sampleSecret
    state := .comparison ⟨1000, 2000, 3000⟩ [] }

/-- Bob while he compares. -/
def sampleShowing : Verification :=
  { sampleAsked with state := .start .sas "ALICE" 1, machine := some sampleComparing }

/-- Alice sends MACs over her key, which Bob knows. However he confirms, his own MACs go out, and he
is done with her key trusted. -/
theorem confirmation_order_is_free_sample :
    ∃ theirs ours verified,
      macContent sampleSecret .unpadded sampleComparing.theirPurpose [sampleKeyOf "ALICE"] =
        .ok theirs ∧
      macContent sampleSecret .unpadded sampleComparing.ownPurpose [sampleKeyOf "BOB"] = .ok ours ∧
      Recognised [sampleKeyOf "ALICE"] [sampleKeyOf "ALICE"] verified ∧
      ∀ events, Arranges sampleAcquainted [.receive (some "ALICE") .done, .act 1 .confirm,
          .receive (some "ALICE") (.mac theirs)] events →
        ((Run.begin sampleShowing ⟨[]⟩).steps events).Ends .done
          [.send (.devices ["ALICE"]) (.mac ours) none, .trust verified .recorded,
            .send (.devices ["ALICE"]) .done none] := by
  obtain ⟨theirs, verified, computed, checked, recognised⟩ := checkMac_macContent sampleSecret
    .unpadded sampleComparing.theirPurpose (.single (sampleKeyOf "ALICE"))
  obtain ⟨last, asked, ends, one⟩ := confirmation_order_is_free (v := sampleShowing)
    (m := sampleComparing) rfl rfl rfl rfl sampleAcquainted ⟨[]⟩ theirs (some "ALICE")
    (some "ALICE")
  obtain ⟨ours, w, effects, told, followed, state, effected⟩ := one sampleSecret .unpadded
    [sampleKeyOf "BOB"] [sampleKeyOf "ALICE"] rfl rfl rfl rfl ⟨rfl, rfl⟩ ⟨rfl, rfl⟩
  have judged : sampleComparing.judge theirs [sampleKeyOf "ALICE"] = .verified verified :=
    Machine.judge_eq_verified_iff.2 ⟨sampleSecret, .unpadded, rfl, rfl, checked⟩
  refine ⟨theirs, ours, verified, computed, told, recognised, fun events arranged => ?_⟩
  cases followed with
  | recorded handed verdict answer =>
    cases judged.symm.trans verdict
    obtain ⟨_, _, ⟨failure, rfl⟩, rest, rfl⟩ := List.forall₂_cons_left_iff.1 handed
    cases rest
    subst state effected
    exact ends events arranged
  | proceed _ verdict | cancelled _ verdict => cases judged.symm.trans verdict
  | refused _ _ answer | pending _ _ answer => cases answer

end

end DeviceVerification.Verification
