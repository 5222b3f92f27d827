import DeviceVerification.Proofs.Verification.Run

/-!
# Trust is earned

A verification asks for trust at most once, only after its user confirmed the short code and MACs of
the counterpart were accepted by the same machine, and only for the keys that these MACs verified.
`trust_is_earned` says so of every run, whatever operations come in whatever order; our done step
goes out exactly where the trust was recorded.
-/

namespace DeviceVerification.Verification

open Progress
open Sas (checkMac macPurpose)

/-! ## At most once -/

/-- Whether the keys of the counterpart can still be trusted from a state. -/
def State.isOpen : State → Bool
  | .waitForDone _ => false
  | s => !s.isTerminal

/-- The number of requests for trust among some effects. -/
def trusts (effects : List Effect) : Nat := effects.countP (·.isTrust)

/-- The number of requests for trust that a verification may still make. -/
def allowance (v : Verification) : Nat := if v.held = false ∧ v.state.isOpen = true then 1 else 0

@[simp] theorem trusts_append (effects effects' : List Effect) :
    trusts (effects ++ effects') = trusts effects + trusts effects' :=
  List.countP_append

theorem Handed.trusts_eq_zero {route : Route} {steps : List Step} {effects : List Effect}
    (h : Handed route steps effects) : trusts effects = 0 :=
  List.countP_eq_zero.2 fun e mem => by simp [h.isTrust_eq_false e mem]

theorem Dismissed.trusts_eq_zero {devices : List String} {effects : List Effect}
    (h : Dismissed devices effects) : trusts effects = 0 :=
  List.countP_eq_zero.2 fun e mem => by simp [h.isTrust_eq_false e mem]

variable {a : Answers} {v v' : Verification} {source : KeySource} {op : Operation} {o : Outcome}
  {turn : Sas.Turn} {effects : List Effect} {content : StartContent}

theorem allowance_le_one (v : Verification) : allowance v ≤ 1 := by
  unfold allowance
  split <;> omega

theorem allowance_of_closed (closed : v.state.isOpen = false) : allowance v = 0 := by
  simp [allowance, closed]

@[simp] theorem allowance_counted (v : Verification) (op : Operation) :
    allowance (v.counted op) = allowance v := by
  simp [allowance]

/-- The allowance does not grow where nothing is reopened. -/
theorem allowance_mono (held : v'.held = v.held)
    (state : v'.state.isOpen = true → v.state.isOpen = true) : allowance v' ≤ allowance v := by
  unfold allowance
  rw [held]
  split
  · rename_i h
    have isOpen : v.held = false ∧ v.state.isOpen = true := ⟨h.1, state h.2⟩
    exact Nat.le_of_eq (if_pos isOpen).symm
  · exact Nat.zero_le _

theorem isOpen_of_isRunning {s : State} (h : s.isRunning = true) : s.isOpen = true := by
  cases s <;> simp [State.isRunning, State.isOpen, State.isTerminal] at h ⊢

theorem completed_closed (v : Verification) : (completed v).state.isOpen = false := by
  unfold completed
  rw [enter_state]
  split <;> rfl

theorem Adopted.trusts_add_le (h : Adopted v content v' effects) (isOpen : v.state.isOpen = true) :
    trusts effects + allowance v' ≤ allowance v := by
  cases h with
  | stranger =>
    exact Nat.le_of_eq (Nat.zero_add _)
  | adopted =>
    rw [trusts, List.countP_nil, Nat.zero_add]
    exact allowance_mono (enter_held _ _) fun _ => isOpen
  | unagreed =>
    rw [allowance_of_closed (by rw [enter_state]; rfl)]
    exact Nat.zero_le _

/-- A request for trust uses up what is allowed. -/
theorem Followed.trusts_add_le (h : Followed a v turn v' effects) (free : v.held = false)
    (isOpen : v.state.isOpen = true) : trusts effects + allowance v' ≤ allowance v := by
  have one : allowance v = 1 := by simp [allowance, free, isOpen]
  cases h with
  | proceed handed =>
    rw [handed.trusts_eq_zero]
    omega
  | recorded handed =>
    rw [trusts_append, handed.trusts_eq_zero, allowance_of_closed (completed_closed v), one]
    exact Nat.le_refl 1
  | refused handed =>
    rw [trusts_append, handed.trusts_eq_zero, allowance_of_closed (by rw [enter_state]; rfl), one]
    exact Nat.le_refl 1
  | pending handed =>
    rw [trusts_append, handed.trusts_eq_zero, one]
    exact Nat.le_refl 1
  | cancelled handed =>
    rw [trusts_append, handed.trusts_eq_zero, allowance_of_closed (by rw [enter_state]; rfl)]
    exact Nat.zero_le _

/-- Trust is asked for only as often as it is allowed. -/
theorem Transition.trusts_add_le (t : Transition a v source op o) (free : v.held = false) :
    trusts o.effects + allowance o.verification ≤ allowance v := by
  have kept : ∀ {w : Verification} {effects : List Effect}, trusts effects = 0 →
      w.held = v.held → (w.state.isOpen = true → v.state.isOpen = true) →
      trusts effects + allowance w ≤ allowance v := by
    intro w effects none held state
    rw [none, Nat.zero_add]
    exact allowance_mono held state
  cases t with
  | ended | refused | ignored | keptStart | replayedLate | unsettled => exact kept rfl rfl id
  | cancels | abort | yield | answeredElsewhere | cancelledByThem | doneLast | replayedCancel =>
    exact kept rfl (enter_held _ _) (by rw [enter_state]; simp [State.isOpen, State.isTerminal])
  | ready state | replayedReady state =>
    exact kept rfl (enter_held _ _) fun _ => by rw [state]; rfl
  | start state => exact kept rfl (by simp [begun]) fun _ => by rw [state]; rfl
  | doneFirst | replayedDone | replayedRun => exact kept rfl rfl id
  | settled running =>
    refine kept rfl (enter_held _ _) ?_
    rw [enter_state]
    cases v.ownDone <;> cases v.theirDone <;> simp [Progress.settled, State.isOpen,
      State.isTerminal]
  | turn state machine feeds change followed =>
    exact followed.trusts_add_le free (isOpen_of_isRunning state)
  | receivedReady hears state some dismissed =>
    exact kept dismissed.trusts_eq_zero (enter_held _ _) fun _ => by rw [state]; rfl
  | lostStart hears state pending higher adopted =>
    exact adopted.trusts_add_le (isOpen_of_isRunning state)
  | receivedStart hears state supported met adopted =>
    have isOpen : v.state.isOpen = true := by
      rcases state with eq | ⟨methods, eq⟩ <;> rw [eq] <;> rfl
    cases met with
    | known => exact adopted.trusts_add_le isOpen
    | chosen none dismissed =>
      rw [trusts_append, dismissed.trusts_eq_zero, Nat.zero_add]
      exact adopted.trusts_add_le isOpen

/-- A run asks for trust at most once. -/
theorem trusts_le_one (v : Verification) (source : KeySource)
    (events : List (Operation × Answers)) :
    trusts ((Run.begin v source).steps events).effects ≤ 1 := by
  have bound : trusts ((Run.begin v source).steps events).effects +
      allowance ((Run.begin v source).steps events).verification ≤ 1 := by
    refine Run.steps_induction (P := fun r => trusts r.effects + allowance r.verification ≤ 1)
      ?_ ?_ ?_ events
    · intro r op a ih held
      rw [Run.effects_extend, List.append_nil]
      exact ih
    · intro r op a outcome ih free t
      have step := t.trusts_add_le (by simpa using free)
      rw [allowance_counted] at step
      rw [Run.effects_extend, trusts_append]
      show _ + allowance outcome.verification ≤ 1
      omega
    · exact (Nat.zero_add _).symm ▸ allowance_le_one v
  omega

/-! ## Only with a reason -/

theorem Feeds.mac_iff {generation : Nat} {mac : MacContent} {theirs : List VerifiableKey} :
    Feeds a v generation op (.mac mac theirs) ↔ ∃ sender, op = .receive sender (.mac mac) ∧
      v.Hears sender (.mac mac) ∧ theirKeys a v = .ok theirs := by
  constructor
  · rintro ⟨⟩
    exact ⟨_, rfl, ‹_›, ‹_›⟩
  · rintro ⟨sender, rfl, hears, read⟩
    exact .mac hears read

theorem Feeds.confirm_iff {generation : Nat} {own theirs : List VerifiableKey} :
    Feeds a v generation op (.confirm own theirs) ↔
      op = .act generation .confirm ∧ bothKeys a v = .ok (own, theirs) := by
  constructor
  · rintro ⟨⟩
    exact ⟨rfl, ‹_›⟩
  · rintro ⟨rfl, read⟩
    exact .confirm read

theorem Feeds.not_release {generation : Nat} : ¬Feeds a v generation op .release := by
  rintro ⟨⟩

/-- Two machines of one run under the same keys: what MACs are checked with is the same. -/
structure SameRun (m m' : Sas.Machine) : Prop where
  generation : m.generation = m'.generation
  context : m.context = m'.context
  secret : m.secret = m'.secret
  agreement : m.agreement = m'.agreement

/-- The user confirmed the short code that the machine showed. -/
def Record.Confirms (e : Record) (m : Sas.Machine) : Prop :=
  e.op = .act m.generation .confirm ∧ ∃ shown own theirs turn, e.before.machine = some shown ∧
    SameRun shown m ∧ shown.state.isComparison = true ∧
      bothKeys e.answers e.before = .ok (own, theirs) ∧
      shown.confirm own theirs = .ok (shown.confirmed, turn)

/-- MACs of the counterpart came in for the machine. -/
def Record.Brings (e : Record) (m : Sas.Machine) (content : MacContent) : Prop :=
  ∃ sender found, e.op = .receive sender (.mac content) ∧
    e.before.Hears sender (.mac content) ∧ e.before.machine = some found ∧ SameRun found m

/-- The machine of the run verified the keys: under its secret, its encoding and the purpose of its
peers, MACs of the counterpart that came in for it were accepted for exactly these keys, and its
user confirmed the short code that it showed. -/
def Justified (log : List Record) (e : Record) (keys : List VerifiableKey) : Prop :=
  ∃ m device secret encoding content known, e.before.machine = some m ∧
    e.before.theirDevice = some device ∧ m.secret = some secret ∧
    m.macEncoding? = some encoding ∧ e.answers.keysOf e.before.theirUser device = .ok known ∧
    checkMac secret encoding (macPurpose ⟨e.before.theirUser, device⟩ e.before.own
      e.before.transaction.id) content known = .ok keys ∧
    (∃ c ∈ log, c.Confirms m) ∧ ∃ c ∈ log, c.Brings m content

/-- Trust is asked for only with a reason, and our done step goes out exactly where the trust is
recorded. -/
structure Earned (before : List Record) (e : Record) : Prop where
  trusts : ∀ keys outcome, .trust keys outcome ∈ e.outcome.effects →
    outcome = e.answers.trusting e.before.theirUser keys ∧ Justified (before ++ [e]) e keys
  finishes : (∃ route failure, .send route .done failure ∈ e.outcome.effects) ↔
    ∃ keys, .trust keys .recorded ∈ e.outcome.effects

/-! ### What the machine relies on -/

/-- What holds of the machine of a verification, given what was logged before. -/
structure Attended (log : List Record) (v : Verification) (m : Sas.Machine) : Prop where
  context : v.context? = some m.context
  started : v.state.isRunning = true ∨ v.state.isOpen = false
  pending : m.pendingMac.isSome → m.state.isComparison = true
  confirmed : m.state = .waitForMacs → m.secret.isSome → ∃ c ∈ log, c.Confirms m
  brought : ∀ content, m.pendingMac = some content → ∃ c ∈ log, c.Brings m content

/-- A verification has no machine but the one from before, or what a release left of it. -/
def Keeps (v v' : Verification) : Prop :=
  ∀ m', v'.machine = some m' → ∃ m, v.machine = some m ∧ (m' = m ∨ m' = m.release)

theorem keeps_of_machine_eq (h : v'.machine = v.machine) : Keeps v v' :=
  fun m' eq => ⟨m', h ▸ eq, .inl rfl⟩

theorem keeps_release (v : Verification) : Keeps v v.release := by
  intro m' eq
  obtain ⟨m, machine, rfl⟩ := Option.map_eq_some_iff.1 (show v.machine.map _ = _ from eq)
  exact ⟨m, machine, .inr rfl⟩

theorem keeps_enter (v : Verification) (s : State) : Keeps v (v.enter s) := by
  intro m' eq
  rw [enter_machine] at eq
  split at eq
  · exact keeps_release v m' eq
  · exact ⟨m', eq, .inl rfl⟩

theorem Keeps.trans {w : Verification} (h : Keeps v v') (h' : Keeps v' w) : Keeps v w := by
  intro m'' eq
  obtain ⟨m', machine', same'⟩ := h' m'' eq
  obtain ⟨m, machine, same⟩ := h m' machine'
  refine ⟨m, machine, ?_⟩
  rcases same with rfl | rfl
  · exact same'
  · exact .inr (same'.elim id id)

theorem keeps_completed (v : Verification) : Keeps v (completed v) :=
  (keeps_release v).trans (keeps_enter { v.release with ownDone := true } _)

variable {log log' : List Record} {m m' : Sas.Machine}

theorem enter_context? (v : Verification) (s : State) : (v.enter s).context? = v.context? := by
  unfold context? theirUser transaction
  simp

theorem context?_congr (own : v'.own = v.own) (request : v'.request = v.request)
    (device : v'.theirDevice = v.theirDevice) : v'.context? = v.context? := by
  rw [context?, context?, own, device, theirUser, theirUser, transaction, transaction, request]

namespace Attended

/-- What a machine relies on stays where it was logged. -/
theorem mono (h : Attended log v m) (more : log ⊆ log') (context : v'.context? = v.context?)
    (started : v'.state.isRunning = true ∨ v'.state.isOpen = false) : Attended log' v' m where
  context := context.trans h.context
  started := started
  pending := h.pending
  confirmed state secret := by
    obtain ⟨c, mem, confirms⟩ := h.confirmed state secret
    exact ⟨c, more mem, confirms⟩
  brought content pending := by
    obtain ⟨c, mem, brings⟩ := h.brought content pending
    exact ⟨c, more mem, brings⟩

/-- What is left of a released machine relies on nothing. -/
theorem release (h : Attended log v m) : Attended log v m.release where
  context := h.context
  started := h.started
  pending some := absurd some (by simp [Sas.Machine.release])
  confirmed _ some := absurd some (by simp [Sas.Machine.release])
  brought _ some := absurd some (by simp [Sas.Machine.release])

/-- A machine that neither holds MACs nor waits for them relies on nothing. -/
theorem of_early (context : v.context? = some m.context)
    (started : v.state.isRunning = true ∨ v.state.isOpen = false) (pending : m.pendingMac = none)
    (state : m.state ≠ .waitForMacs) : Attended log v m where
  context := context
  started := started
  pending some := absurd some (by simp [pending])
  confirmed waiting := absurd waiting state
  brought _ some := absurd some (by simp [pending])

theorem keeps (h : ∀ m, v.machine = some m → Attended log v m) (more : log ⊆ log')
    (kept : Keeps v v') (context : v'.context? = v.context?)
    (started : v.state.isRunning = true ∨ v.state.isOpen = false →
      v'.state.isRunning = true ∨ v'.state.isOpen = false) :
    ∀ m', v'.machine = some m' → Attended log' v' m' := by
  intro m' machine'
  obtain ⟨m, machine, rfl | rfl⟩ := kept m' machine'
  · exact (h m' machine).mono more context (started (h m' machine).started)
  · exact (h m machine).release.mono more context (started (h m machine).started)

/-- Before the users compare, no MACs wait. -/
theorem pendingMac_eq_none (h : Attended log v m) (state : m.state.isComparison = false) :
    m.pendingMac = none := by
  cases pending : m.pendingMac with
  | none => rfl
  | some content =>
    have shown := h.pending (by simp [pending])
    rw [state] at shown
    cases shown

/-- A machine that takes an input relies on what was logged up to it. -/
theorem change (h : Attended log v m) {input : Sas.Input} {d : Sas.Machine.Drawn} {e : Record}
    (found : e.before.machine = some m) (feeds : Feeds e.answers e.before m.generation e.op input)
    (changed : m.Change source input d) : Attended (log ++ [e]) v d.machine := by
  have here : e ∈ log ++ [e] := List.mem_append_right _ (List.mem_singleton_self e)
  cases changed with
  | acceptFails | acceptUndrawn | acceptedUnexpected | acceptedUnoffered | keyUnexpected
  | keyMismatched | starterKeyInvalid | macJudged | macUnexpected | confirmFails | reject =>
    exact h.mono (List.subset_append_left _ _) rfl h.started
  | accept state | acceptedUndrawn state | accepted state =>
    refine of_early h.context h.started (h.pendingMac_eq_none ?_) (by simp [Sas.Machine.accepting,
      Sas.Machine.agreed, Sas.Machine.revealing])
    rw [state]
    rfl
  | starterKey role state | accepterKeyInvalid role state | accepterKey role state =>
    refine of_early h.context h.started (h.pendingMac_eq_none ?_) (by simp [Sas.Machine.reveal])
    rw [state]
    rfl
  | macHeld state first =>
    obtain ⟨sender, op, hears, -⟩ := Feeds.mac_iff.1 feeds
    refine ⟨h.context, h.started, fun _ => state, fun waiting => ?_, fun content pending => ?_⟩
    · rw [show m.state = .waitForMacs from waiting] at state
      cases state
    · cases pending
      exact ⟨e, here, sender, m, op, hears, found, ⟨rfl, rfl, rfl, rfl⟩⟩
  | confirm state known written computed =>
    obtain ⟨op, read⟩ := Feeds.confirm_iff.1 feeds
    refine ⟨h.context, h.started, fun some => absurd some (by simp [Sas.Machine.confirmed]),
      fun _ _ => ⟨e, here, op, m, _, _, _, found, ⟨rfl, rfl, rfl, rfl⟩, state, read,
        Sas.Machine.confirm_eq state known written computed⟩, fun content pending => ?_⟩
    cases pending
  | release => exact absurd feeds Feeds.not_release

end Attended

/-- The machine of an adopted start is a new one. -/
theorem Adopted.attended (h : Adopted v content v' effects) (none : v.machine = none) :
    ∀ m, v'.machine = some m → Attended log v' m := by
  intro m machine
  cases h with
  | stranger => exact absurd (none.symm.trans machine) (by simp)
  | unagreed =>
    rw [enter_machine] at machine
    simp [State.isTerminal, none] at machine
  | @adopted context fresh known made =>
    rw [enter_machine] at machine
    obtain rfl : fresh = m := by simpa [State.isTerminal] using machine
    obtain rfl := Sas.Machine.eq_init_of_theirStart made
    refine .of_early ?_ (.inl (by rw [enter_state]; rfl)) rfl (by simp [Sas.Machine.init])
    rw [enter_context?]
    exact known

theorem completed_context? (v : Verification) : (completed v).context? = v.context? :=
  enter_context? _ _

/-- What becomes of a turn keeps what the machine relies on. -/
theorem Followed.attended (h : Followed a v turn v' effects)
    (old : ∀ m, v.machine = some m → Attended log v m) :
    ∀ m, v'.machine = some m → Attended log v' m := by
  have more : log ⊆ log := List.Subset.refl log
  cases h with
  | proceed => exact old
  | recorded =>
    exact Attended.keeps old more (keeps_completed v) (completed_context? v)
      fun _ => .inr (completed_closed v)
  | refused | cancelled =>
    exact Attended.keeps old more (keeps_enter _ _) (enter_context? _ _)
      fun _ => .inr (by rw [enter_state]; rfl)
  | pending => exact Attended.keeps old more (keeps_of_machine_eq rfl) rfl id

section

variable (a : Answers) (v : Verification) (op : Operation)

@[simp] theorem counted_context? : (v.counted op).context? = v.context? :=
  context?_congr (by simp) (by simp) (by simp)

theorem theirKeys_counted : theirKeys a (v.counted op) = theirKeys a v := by
  unfold theirKeys theirUser
  simp

theorem bothKeys_counted : bothKeys a (v.counted op) = bothKeys a v := by
  unfold bothKeys
  rw [theirKeys_counted, counted_own]

theorem hears_counted {sender : Option String} {step : Step} :
    (v.counted op).Hears sender step ↔ v.Hears sender step := by
  have near : isStray (v.counted op) sender step = isStray v sender step := by
    unfold isStray
    rw [counted_theirDevice]
  constructor
  · rintro ⟨h, kept⟩
    exact ⟨near ▸ h, by simpa using kept⟩
  · rintro ⟨h, kept⟩
    exact ⟨near.symm ▸ h, by simpa using kept⟩

end

/-- What an operation is for the machine does not depend on the count. -/
theorem Feeds.of_counted {op' : Operation} {generation : Nat} {input : Sas.Input}
    (h : Feeds a (v.counted op') generation op input) : Feeds a v generation op input := by
  cases h with
  | accept => exact .accept
  | confirm read => exact .confirm (bothKeys_counted a v op' ▸ read)
  | reject => exact .reject
  | accepted hears => exact .accepted ((hears_counted v op').1 hears)
  | key hears => exact .key ((hears_counted v op').1 hears)
  | mac hears read =>
    exact .mac ((hears_counted v op').1 hears) (theirKeys_counted a v op' ▸ read)

/-- What the machine relies on was logged after every operation. -/
theorem Transition.attended (t : Transition a (v.counted op) source op o)
    (old : ∀ m, v.machine = some m → Attended log v m) :
    ∀ m, o.verification.machine = some m →
      Attended (log ++ [⟨v, op, a, o⟩]) o.verification m := by
  have more : log ⊆ log ++ [⟨v, op, a, o⟩] := List.subset_append_left _ _
  generalize eq : v.counted op = w at t
  have state : w.state = v.state := by rw [← eq, counted_state]
  have machine : w.machine = v.machine := by rw [← eq, counted_machine]
  have old' : ∀ m, w.machine = some m → Attended log w m := by
    intro m found
    have h := old m (machine ▸ found)
    exact h.mono (List.Subset.refl _) (by rw [← eq, counted_context?]) (state ▸ h.started)
  -- A request that is not answered, or answered without a start, has no machine yet.
  have early : ∀ {s : State}, w.state = s → s.isRunning = false → s.isOpen = true →
      w.machine = none := by
    intro s at_ idle isOpen
    cases found : w.machine with
    | none => rfl
    | some m =>
      rcases (old' m found).started with running | closed
      · simp [at_, idle] at running
      · simp [at_, isOpen] at closed
  have keeps : ∀ {w' : Verification}, Keeps w w' → w'.context? = w.context? →
      (w.state.isRunning = true ∨ w.state.isOpen = false →
        w'.state.isRunning = true ∨ w'.state.isOpen = false) →
      ∀ m, w'.machine = some m → Attended (log ++ [⟨v, op, a, o⟩]) w' m :=
    fun kept context started => Attended.keeps old' more kept context started
  have ends : ∀ {s : State}, s.isOpen = false → ∀ m, (w.enter s).machine = some m →
      Attended (log ++ [⟨v, op, a, o⟩]) (w.enter s) m :=
    fun closed => keeps (keeps_enter _ _) (enter_context? _ _)
      fun _ => .inr (by rw [enter_state]; exact closed)
  cases t with
  | ended | refused | ignored | keptStart | replayedLate | unsettled =>
    exact keeps (keeps_of_machine_eq rfl) rfl id
  | cancels | abort | yield | answeredElsewhere | cancelledByThem | replayedCancel =>
    exact ends rfl
  | doneFirst | replayedDone => exact keeps (keeps_of_machine_eq rfl) rfl id
  | doneLast =>
    exact keeps ((keeps_of_machine_eq rfl).trans (keeps_enter _ _)) (enter_context? _ _)
      fun _ => .inr (by rw [enter_state]; rfl)
  | replayedRun =>
    exact keeps ((keeps_release w).trans (keeps_of_machine_eq rfl)) rfl id
  | settled =>
    refine ends ?_
    cases w.ownDone <;> cases w.theirDone <;> rfl
  | ready request | replayedReady request =>
    intro m found
    have none := early request rfl rfl
    obtain ⟨m', some, -⟩ := keeps_enter _ _ m found
    exact absurd (none.symm.trans some) (by simp)
  | @start method methods context failure reply ready offered known =>
    intro m found
    obtain rfl := Option.some.inj ((begun_machine w method context).symm.trans found)
    refine .of_early ?_ (.inl ?_) rfl (by simp [Sas.Machine.ownStart, Sas.Machine.init])
    · exact (enter_context? _ _).trans known
    · exact congrArg State.isRunning (enter_state _ _)
  | @turn op m input d v' effects reply running found feeds change followed =>
    have attended := (old' m found).change (e := ⟨v, op, a, ⟨v', d.source, effects, reply⟩⟩)
      (machine ▸ found) (Feeds.of_counted (eq ▸ feeds)) change
    refine followed.attended ?_
    rintro m' ⟨⟩
    exact attended.mono (List.Subset.refl _) rfl attended.started
  | receivedReady hears request =>
    intro m found
    have none := early request rfl rfl
    obtain ⟨m', some, -⟩ := keeps_enter _ _ m found
    exact absurd (none.symm.trans some) (by simp)
  | receivedStart hears before supported met adopted =>
    have none : w.machine = none := by
      rcases before with request | ⟨methods, ready⟩
      · exact early request rfl rfl
      · exact early ready rfl rfl
    cases met with
    | known => exact adopted.attended none
    | chosen => exact adopted.attended none
  | lostStart hears running pending higher adopted => exact adopted.attended rfl

/-! ### What is asked of the surroundings -/

/-- Effects that neither ask for trust nor end the verification on our side. -/
def Plain (effects : List Effect) : Prop :=
  ∀ e ∈ effects, e.isTrust = false ∧ e.step? ≠ some .done

theorem plain_nil : Plain [] := by
  intro e mem
  cases mem

theorem plain_send {route : Route} {step : Step} {failure : Option TransportError}
    (h : step ≠ .done) : Plain [.send route step failure] := by
  intro e mem
  obtain rfl := List.mem_singleton.1 mem
  exact ⟨rfl, fun done => h (Option.some.inj done)⟩

theorem Plain.append {effects' : List Effect} (h : Plain effects) (h' : Plain effects') :
    Plain (effects ++ effects') := by
  intro e mem
  rcases List.mem_append.1 mem with mem | mem
  · exact h e mem
  · exact h' e mem

theorem Dismissed.plain {devices : List String} (h : Dismissed devices effects) :
    Plain effects := by
  cases h with
  | none => exact plain_nil
  | told => intro e mem; obtain rfl := List.mem_singleton.1 mem; exact ⟨rfl, by simp [Effect.step?]⟩

theorem Handed.plain {route : Route} {steps : List Step} (h : Handed route steps effects)
    (steady : .done ∉ steps) : Plain effects := by
  intro e mem
  refine ⟨h.isTrust_eq_false e mem, fun done => steady ?_⟩
  rw [← h.filterMap_step?]
  exact List.mem_filterMap.2 ⟨e, mem, done⟩

theorem Adopted.plain (h : Adopted v content v' effects) : Plain effects := by
  cases h with
  | stranger => exact plain_nil
  | adopted => exact plain_nil
  | unagreed => exact plain_send (by simp)

variable {before : List Record} {e : Record}

theorem Plain.not_trust (h : Plain effects) (keys : List VerifiableKey) (outcome : TrustOutcome) :
    .trust keys outcome ∉ effects := by
  intro mem
  cases (h _ mem).1

theorem Plain.not_done (h : Plain effects) (route : Route) (failure : Option TransportError) :
    .send route .done failure ∉ effects := by
  intro mem
  exact (h _ mem).2 rfl

/-- An operation that asks for no trust has nothing to justify. -/
theorem Plain.earned (h : Plain e.outcome.effects) : Earned before e where
  trusts keys outcome mem := absurd mem (h.not_trust keys outcome)
  finishes := by
    constructor
    · rintro ⟨route, failure, mem⟩
      exact absurd mem (h.not_done route failure)
    · rintro ⟨keys, mem⟩
      exact absurd mem (h.not_trust keys _)

theorem theirKeys_of_bothKeys {own theirs : List VerifiableKey}
    (read : bothKeys a v = .ok (own, theirs)) : theirKeys a v = .ok theirs := by
  unfold bothKeys at read
  cases ours : a.keysOf v.own.user v.own.device with
  | error e => simp [ours, bind, Except.bind] at read
  | ok own' =>
    cases read' : theirKeys a v with
    | error e => simp [ours, read', bind, Except.bind] at read
    | ok theirs' =>
      simp only [ours, read', bind, Except.bind, Except.ok.injEq, Prod.mk.injEq] at read
      rw [read.2]

/-- Whom the machine of a verification runs with. -/
theorem context?_eq_some_iff {context : Sas.Context} : v.context? = some context ↔
    ∃ device, v.theirDevice = some device ∧
      context = ⟨v.own, ⟨v.theirUser, device⟩, v.transaction⟩ := by
  unfold context?
  rw [Option.map_eq_some_iff]
  constructor
  · rintro ⟨device, known, rfl⟩
    exact ⟨device, known, rfl⟩
  · rintro ⟨device, known, rfl⟩
    exact ⟨device, known, rfl⟩

/-- Keys that a turn verifies are verified for a reason. -/
theorem Attended.verified (h : Attended before e.before m) {input : Sas.Input}
    {d : Sas.Machine.Drawn} {keys : List VerifiableKey} (found : e.before.machine = some m)
    (feeds : Feeds e.answers e.before m.generation e.op input) (change : m.Change source input d)
    (verdict : d.turn.verdict = .verified keys) :
    Justified (before ++ [e]) e keys := by
  obtain ⟨device, known, context⟩ := context?_eq_some_iff.1 h.context
  obtain ⟨content, theirs, judged, reason⟩ := change.verified_cases verdict
  obtain ⟨secret, encoding, agreed, written, checked⟩ :=
    Sas.Machine.judge_eq_verified_iff.1 judged
  rw [Sas.Machine.theirPurpose, context] at checked
  have here : e ∈ before ++ [e] := List.mem_append_right _ (List.mem_singleton_self e)
  have same : SameRun m m := ⟨rfl, rfl, rfl, rfl⟩
  have read : theirKeys e.answers e.before = .ok theirs →
      e.answers.keysOf e.before.theirUser device = .ok theirs := by
    intro read
    simpa only [theirKeys, known] using read
  rcases reason with ⟨rfl, state⟩ | ⟨own, rfl, state, pending, confirmed⟩
  · obtain ⟨sender, op, hears, keysRead⟩ := Feeds.mac_iff.1 feeds
    obtain ⟨c, mem, confirms⟩ := h.confirmed state (by simp [agreed])
    exact ⟨m, device, secret, encoding, content, theirs, found, known, agreed, written,
      read keysRead, checked, ⟨c, List.mem_append_left _ mem, confirms⟩,
      ⟨e, here, sender, m, op, hears, found, same⟩⟩
  · obtain ⟨op, keysRead⟩ := Feeds.confirm_iff.1 feeds
    obtain ⟨c, mem, brings⟩ := h.brought content pending
    exact ⟨m, device, secret, encoding, content, theirs, found, known, agreed, written,
      read (theirKeys_of_bothKeys keysRead), checked,
      ⟨e, here, op, m, own, theirs, d.turn, found, same, state, keysRead, confirmed⟩,
      ⟨c, List.mem_append_left _ mem, brings⟩⟩

/-- A single request for trust is earned if there is a reason for it and our done step goes with
its success. -/
theorem earned_of_trust {sent rest : List Effect} {keys : List VerifiableKey}
    {outcome : TrustOutcome} (eq : e.outcome.effects = sent ++ .trust keys outcome :: rest)
    (plain : Plain sent) (once : ∀ x ∈ rest, x.isTrust = false)
    (answer : e.answers.trusting e.before.theirUser keys = outcome)
    (justified : Justified (before ++ [e]) e keys)
    (finishes : (∃ route failure, .send route .done failure ∈ rest) ↔ outcome = .recorded) :
    Earned before e := by
  have only : ∀ keys' outcome', .trust keys' outcome' ∈ e.outcome.effects →
      keys' = keys ∧ outcome' = outcome := by
    intro keys' outcome' mem
    rw [eq] at mem
    rcases List.mem_append.1 mem with mem | mem
    · exact absurd mem (plain.not_trust keys' outcome')
    · rcases List.mem_cons.1 mem with same | mem
      · exact ⟨(Effect.trust.inj same).1, (Effect.trust.inj same).2⟩
      · cases once _ mem
  constructor
  · intro keys' outcome' mem
    obtain ⟨rfl, rfl⟩ := only keys' outcome' mem
    exact ⟨answer.symm, justified⟩
  · constructor
    · rintro ⟨route, failure, mem⟩
      rw [eq] at mem
      rcases List.mem_append.1 mem with mem | mem
      · exact absurd mem (plain.not_done route failure)
      · rcases List.mem_cons.1 mem with same | mem
        · cases same
        · obtain rfl := finishes.1 ⟨route, failure, mem⟩
          exact ⟨keys, by rw [eq]; simp⟩
    · rintro ⟨keys', mem⟩
      obtain ⟨route, failure, done⟩ := finishes.2 (only keys' _ mem).2.symm
      exact ⟨route, failure, by rw [eq]; simp [done]⟩

/-- What follows a turn asks for trust only in the keys that the turn verified, and finishes only
with their trust. -/
theorem Followed.earned (h : Followed e.answers v turn v' e.outcome.effects)
    (user : e.before.theirUser = v.theirUser) (steady : .done ∉ turn.outbound)
    (justified : ∀ keys, turn.verdict = .verified keys → Justified (before ++ [e]) e keys) :
    Earned before e := by
  generalize eq : e.outcome.effects = effects at h
  cases h with
  | proceed handed => exact Plain.earned (eq ▸ handed.plain steady)
  | cancelled handed =>
    exact Plain.earned (eq ▸ (handed.plain steady).append (plain_send (by simp)))
  | recorded handed verdict answer =>
    exact earned_of_trust eq (handed.plain steady) (by simp [Effect.isTrust])
      (user ▸ answer) (justified _ verdict) (by simp)
  | refused handed verdict answer =>
    exact earned_of_trust eq (handed.plain steady) (by simp [Effect.isTrust])
      (user ▸ answer) (justified _ verdict) (by simp)
  | pending handed verdict answer =>
    exact earned_of_trust eq (handed.plain steady) (by simp) (user ▸ answer) (justified _ verdict)
      (by simp)

/-- What an operation asks of the surroundings is earned. -/
theorem Transition.earned (t : Transition a (v.counted op) source op o)
    (old : ∀ m, v.machine = some m → Attended log v m) : Earned log ⟨v, op, a, o⟩ := by
  cases t with
  | ended | refused | abort | yield | ignored | answeredElsewhere | cancelledByThem | keptStart
  | doneFirst | doneLast | replayedReady | replayedLate | replayedDone | replayedCancel
  | replayedRun | settled | unsettled => exact Plain.earned plain_nil
  | cancels | ready | start => exact Plain.earned (plain_send (by simp))
  | receivedReady hears state some dismissed => exact Plain.earned dismissed.plain
  | lostStart hears state pending higher adopted => exact Plain.earned adopted.plain
  | receivedStart hears state supported met adopted =>
    cases met with
    | known => exact Plain.earned adopted.plain
    | chosen none dismissed => exact Plain.earned (dismissed.plain.append adopted.plain)
  | @turn op m input d v' effects reply running machine feeds change followed =>
    rw [counted_machine] at machine
    have user : v.theirUser = (v.counted op).theirUser := by
      rw [theirUser, theirUser, counted_request]
    exact Followed.earned (e := ⟨v, op, a, ⟨v', d.source, effects, reply⟩⟩) followed user
      change.done_not_mem fun keys verdict =>
        (old m machine).verified machine feeds.of_counted change verdict

/-! ### Runs -/

/-- What holds of every run. -/
structure Faithful (r : Run) : Prop where
  machine : ∀ m, r.verification.machine = some m → Attended r.log r.verification m
  log : Grounded Earned r.log

theorem faithful_begin (own : Identity) (settings : Sas.Settings) (route : Route)
    (request : Request) (source : KeySource) :
    Faithful (.begin (ofRequest own settings route request) source) := by
  refine ⟨fun m found => ?_, grounded_nil _⟩
  cases found

namespace Faithful

variable {r : Run}

theorem wait (h : Faithful r) (op : Operation) (a : Answers) :
    Faithful (r.extend op a ⟨r.verification, r.source, [], .waiting⟩) := by
  refine ⟨fun m found => ?_, grounded_concat h.log (Plain.earned plain_nil)⟩
  have attended := h.machine m found
  exact attended.mono (List.subset_append_left _ _) rfl attended.started

theorem change (h : Faithful r)
    (t : Transition a (r.verification.counted op) r.source op o) : Faithful (r.extend op a o) :=
  ⟨t.attended h.machine, grounded_concat h.log (t.earned h.machine)⟩

/-- A run stays faithful with every operation. -/
theorem step (h : Faithful r) (event : Operation × Answers) : Faithful (r.step event) :=
  Run.step_preserves (fun _ op a h _ => h.wait op a) (fun _ _ _ _ h _ t => h.change t) h event

theorem steps (h : Faithful r) (events : List (Operation × Answers)) :
    Faithful (r.steps events) :=
  Run.steps_induction (fun _ op a h _ => h.wait op a) (fun _ _ _ _ h _ t => h.change t) h events

/-- Where our done step went out, trust was recorded. -/
theorem recorded_of_done (h : Faithful r) (done : ∃ e ∈ r.effects, e.step? = some .done) :
    ∃ keys, .trust keys .recorded ∈ r.effects := by
  obtain ⟨e, mem, isDone⟩ := done
  obtain ⟨record, logged, mem⟩ := List.mem_flatMap.1 mem
  obtain ⟨before, after, split⟩ := List.append_of_mem logged
  have sent : ∃ route failure, .send route .done failure ∈ record.outcome.effects := by
    cases e with
    | send route step failure =>
      obtain rfl := Option.some.inj isDone
      exact ⟨route, failure, mem⟩
    | dismiss | trust => cases isDone
  obtain ⟨keys, recorded⟩ := (h.log before record after split).finishes.1 sent
  exact ⟨keys, List.mem_flatMap.2 ⟨record, logged, recorded⟩⟩

end Faithful

/-- A run that has everything is faithful. -/
theorem Run.Whole.faithful {r : Run} (whole : r.Whole) : Faithful r := by
  obtain ⟨own, settings, route, request, source, events, rfl⟩ := whole
  exact (faithful_begin own settings route request source).steps events

/-- **Trust is earned.** Whatever happens to a verification, it asks for trust at most once, only
for keys that the machine of its run verified and after its user confirmed the short code, and our
done step goes out exactly where that trust is recorded. -/
theorem trust_is_earned (own : Identity) (settings : Sas.Settings) (route : Route)
    (request : Request) (source : KeySource) (events : List (Operation × Answers)) :
    trusts ((Run.begin (ofRequest own settings route request) source).steps events).effects ≤ 1 ∧
      Grounded Earned
        ((Run.begin (ofRequest own settings route request) source).steps events).log :=
  ⟨trusts_le_one _ source events,
    ((faithful_begin own settings route request source).steps events).log⟩

end DeviceVerification.Verification
