import DeviceVerification.Proofs.Sas.Commitment
import DeviceVerification.Proofs.Sas.MacExchange

/-!
# What a machine has in each of its states

A machine gathers a key pair, an agreement, a commitment and a secret on its way, and each handler
asks again whether what it needs is there. `Machine.Holds` is the table of what every state stands
for. A run that nobody has forget its secrets keeps to it, whatever inputs come in whatever order
and however often the key source fails, so none of these questions is ever answered with no
(`machine_is_equipped`).
-/

namespace DeviceVerification

/-- The two MACs are the known ones. -/
theorem MacMethod.isKnown_iff {m : MacMethod} : m.isKnown = true ↔ m = .current ∨ m = .legacy := by
  obtain ⟨name⟩ := m
  simp [Identifier.isKnown, Vocabulary.known, current, legacy]

/-- What a draw takes from a key source: at most one key pair, which is the one that it gives. -/
theorem KeySource.exists_draws {source rest : KeySource} {result : Except CryptoError KeyPair}
    (drawn : source.draw = (result, rest)) :
    ∃ taken, source.draws = taken ++ rest.draws ∧
      taken.filterMap Except.toOption = result.toOption.toList := by
  obtain ⟨draws⟩ := source
  cases draws with
  | nil =>
    obtain ⟨rfl, rfl⟩ := Prod.mk.inj drawn
    exact ⟨[], rfl, rfl⟩
  | cons d later =>
    obtain ⟨rfl, rfl⟩ := Prod.mk.inj drawn
    refine ⟨[d], rfl, ?_⟩
    cases d <;> rfl

namespace Sas

/-! ## Agreements -/

section

variable {s : Settings} {start : StartContent} {content : AcceptContent} {n : Agreement}

/-- A known MAC can be written. -/
theorem Agreement.isSome_macEncoding? (known : n.mac.isKnown = true) :
    n.macEncoding?.isSome := by
  unfold macEncoding?
  rcases MacMethod.isKnown_iff.1 known with eq | eq
  · simp [eq]
  · simp [eq, MacMethod.current, MacMethod.legacy]

namespace Settings

/-- An answer chooses a MAC of ours. -/
theorem mac_mem_of_negotiate (agrees : s.negotiate start = some n) : n.mac ∈ s.macs := by
  unfold negotiate at agrees
  split at agrees
  · simp only [Option.bind_eq_bind, Option.bind_eq_some_iff] at agrees
    obtain ⟨hash, -, keyAgreement, -, mac, found, agrees⟩ := agrees
    split at agrees
    · cases agrees
    · obtain rfl := Option.some.inj agrees
      exact List.mem_of_find?_eq_some found
  · cases agrees

/-- An answer to our start chooses a MAC of ours. -/
theorem mac_mem_of_accepted (agrees : s.accepted start content = some n) : n.mac ∈ s.macs := by
  unfold accepted at agrees
  split at agrees
  · rename_i allowed
    obtain rfl := Option.some.inj agrees
    simp only [allows, Bool.and_eq_true, List.contains_iff_mem] at allowed
    exact allowed.1.1.2.1
  · cases agrees

end Settings

end

/-! ## States -/

theorem State.isComparison_iff {s : State} :
    s.isComparison = true ↔ ∃ decimals indices, s = .comparison decimals indices := by
  cases s <;> simp [isComparison]

/-- How far a state is on the way. -/
def State.rank : State → Nat
  | .ownStart => 0
  | .theirStart => 0
  | .accept _ => 1
  | .waitForKeys _ => 2
  | .comparison _ _ => 3
  | .waitForMacs => 4

namespace Machine

/-- A machine has its key pair and knows what was agreed on. -/
def Keyed (m : Machine) : Prop := m.keyPair.isSome ∧ m.agreement.isSome

/-- What a state stands for: who started, and what has been drawn, taken and derived. -/
def Holds (m : Machine) : State → Prop
  | .ownStart => m.weStarted = true ∧ m.keyPair = none
  | .theirStart => m.weStarted = false ∧ m.keyPair = none
  | .accept true => m.weStarted = false ∧ m.Keyed
  | .accept false => m.weStarted = true ∧ m.keyPair = none
  | .waitForKeys true => m.weStarted = true ∧ m.Keyed ∧ m.theirCommitment.isSome
  | .waitForKeys false => m.weStarted = false ∧ m.Keyed
  | .comparison _ _ => m.Keyed ∧ m.secret.isSome
  | .waitForMacs => m.Keyed ∧ m.secret.isSome

/-- A machine with known MACs has what its state stands for. -/
structure Equipped (m : Machine) : Prop where
  holds : m.Holds m.state
  /-- MACs wait only while the users compare. -/
  pending : m.pendingMac.isSome → m.state.isComparison = true
  known : ∀ mac ∈ m.settings.macs, mac.isKnown = true
  agreed : ∀ n, m.agreement = some n → n.mac ∈ m.settings.macs

variable {m : Machine} {source : KeySource} {input : Input} {d : Drawn}

/-- A machine at its start has nothing yet. -/
theorem equipped_init (generation : Nat) (context : Context) {settings : Settings}
    (known : ∀ mac ∈ settings.macs, mac.isKnown = true) (weStarted : Bool)
    (start : StartContent) : (init generation context settings weStarted start).Equipped where
  holds := by cases weStarted <;> exact ⟨rfl, rfl⟩
  pending waits := by cases waits
  known := known
  agreed _ agreement := by cases agreement

namespace Equipped

theorem holds_of_state (h : m.Equipped) {s : State} (state : m.state = s) : m.Holds s :=
  state ▸ h.holds

/-- Outside the comparison no MACs wait. -/
theorem pendingMac_eq_none (h : m.Equipped) (state : m.state.isComparison = false) :
    m.pendingMac = none := by
  cases waits : m.pendingMac with
  | none => rfl
  | some content =>
    have compares := h.pending (by simp [waits])
    cases state.symm.trans compares

/-- Where the users compare or MACs are awaited, everything is there to write and check MACs. -/
theorem keyed_and_secret (h : m.Equipped)
    (state : m.state.isComparison = true ∨ m.state = .waitForMacs) :
    m.Keyed ∧ m.secret.isSome := by
  rcases state with compares | waits
  · obtain ⟨decimals, indices, eq⟩ := State.isComparison_iff.1 compares
    exact h.holds_of_state eq
  · exact h.holds_of_state waits

/-- The secret and the way to write MACs are there where MACs are written and checked. -/
theorem exists_secret (h : m.Equipped)
    (state : m.state.isComparison = true ∨ m.state = .waitForMacs) :
    ∃ secret encoding, m.secret = some secret ∧ m.macEncoding? = some encoding := by
  obtain ⟨⟨-, agreement⟩, shared⟩ := h.keyed_and_secret state
  obtain ⟨secret, shared⟩ := Option.isSome_iff_exists.1 shared
  obtain ⟨n, agreement⟩ := Option.isSome_iff_exists.1 agreement
  have written := Agreement.isSome_macEncoding? (h.known _ (h.agreed n agreement))
  obtain ⟨encoding, written⟩ := Option.isSome_iff_exists.1 written
  exact ⟨secret, encoding, shared, by simp [macEncoding?, agreement, written]⟩

end Equipped

/-! ## One input -/

/-- Every input but the one that has everything forgotten keeps a machine equipped. -/
theorem Change.equipped (h : m.Change source input d) (kept : input ≠ .release)
    (e : m.Equipped) : d.machine.Equipped := by
  -- MACs wait only once something is shown, which is after all the answers to a start.
  have quiet {s : State} (state : m.state = s) (early : s.isComparison = false) :
      m.pendingMac.isSome → False := by
    rw [e.pendingMac_eq_none (state ▸ early)]
    exact nofun
  cases h with
  | acceptFails | acceptUndrawn | acceptedUnexpected | acceptedUnoffered | keyUnexpected
  | keyMismatched | starterKeyInvalid | macJudged | macUnexpected | confirmFails | reject => exact e
  | release => exact absurd rfl kept
  | accept state agrees =>
    obtain ⟨role, -⟩ := e.holds_of_state state
    refine ⟨⟨role, rfl, rfl⟩, fun waits => (quiet state rfl waits).elim, e.known, ?_⟩
    rintro n ⟨⟩
    exact Settings.mac_mem_of_negotiate agrees
  | acceptedUndrawn state agrees =>
    refine ⟨e.holds_of_state state, fun waits => (quiet state rfl waits).elim, e.known, ?_⟩
    rintro n ⟨⟩
    exact Settings.mac_mem_of_accepted agrees
  | accepted state agrees =>
    obtain ⟨role, -⟩ := e.holds_of_state state
    refine ⟨⟨role, ⟨rfl, rfl⟩, rfl⟩, fun waits => (quiet state rfl waits).elim, e.known, ?_⟩
    rintro n ⟨⟩
    exact Settings.mac_mem_of_accepted agrees
  | starterKey role state =>
    obtain ⟨-, keyed, -⟩ := e.holds_of_state state
    exact ⟨⟨keyed, rfl⟩, fun _ => rfl, e.known, e.agreed⟩
  | accepterKeyInvalid role state =>
    exact ⟨e.holds_of_state state, fun waits => (quiet state rfl waits).elim, e.known, e.agreed⟩
  | accepterKey role state =>
    obtain ⟨-, keyed⟩ := e.holds_of_state state
    exact ⟨⟨keyed, rfl⟩, fun _ => rfl, e.known, e.agreed⟩
  | macHeld state first =>
    obtain ⟨decimals, indices, eq⟩ := State.isComparison_iff.1 state
    refine ⟨?_, fun _ => state, e.known, e.agreed⟩
    show Holds _ m.state
    rw [eq]
    exact e.holds_of_state eq
  | confirm state =>
    exact ⟨e.keyed_and_secret (.inl state), nofun, e.known, e.agreed⟩

/-- An input keeps the state or takes it further. -/
theorem Change.forward (h : m.Change source input d) :
    d.machine.state = m.state ∨ m.state.rank < d.machine.state.rank := by
  cases h with
  | acceptFails | acceptUndrawn | acceptedUnexpected | acceptedUnoffered | keyUnexpected
  | keyMismatched | starterKeyInvalid | macHeld | macJudged | macUnexpected | confirmFails
  | reject | release => exact .inl rfl
  | accept state | acceptedUndrawn state | accepted state =>
    refine .inr ?_
    rw [state]
    exact Nat.zero_lt_succ _
  | starterKey role state =>
    refine .inr ?_
    rw [state]
    show 2 < 3
    omega
  | accepterKeyInvalid role state =>
    refine .inr ?_
    rw [state]
    show 1 < 2
    omega
  | accepterKey role state =>
    refine .inr ?_
    rw [state]
    show 1 < 3
    omega
  | confirm state =>
    obtain ⟨decimals, indices, eq⟩ := State.isComparison_iff.1 state
    refine .inr ?_
    rw [eq]
    show 3 < 4
    omega

/-- A key pair that an input draws is the one that the machine has from then on. -/
theorem Change.draws (h : m.Change source input d) (kept : input ≠ .release) (e : m.Equipped) :
    ∃ taken, source.draws = taken ++ d.source.draws ∧
      m.keyPair.toList ++ taken.filterMap Except.toOption = d.machine.keyPair.toList := by
  cases h with
  | release => exact absurd rfl kept
  | acceptUndrawn state agrees drawn | acceptedUndrawn state agrees drawn =>
    obtain ⟨taken, draws, none⟩ := KeySource.exists_draws drawn
    exact ⟨taken, draws, by rw [none]; exact List.append_nil _⟩
  | accept state agrees drawn | accepted state agrees drawn =>
    obtain ⟨-, fresh⟩ := e.holds_of_state state
    obtain ⟨taken, draws, pair⟩ := KeySource.exists_draws drawn
    exact ⟨taken, draws, by rw [pair, fresh]; rfl⟩
  | _ => exact ⟨[], rfl, List.append_nil _⟩

/-! ## What is never missing -/

/-- A key pair fails to agree only with a key that is none. -/
theorem code_of_derive {theirKey : String} {reason : CancelContent} (keyPair : m.keyPair.isSome)
    (underived : m.derive theirKey = .error reason) : reason.code = .invalidMessage := by
  obtain ⟨pair, drawn⟩ := Option.isSome_iff_exists.1 keyPair
  unfold derive at underived
  rw [drawn] at underived
  simp only at underived
  split at underived
  · cases underived
    rfl
  · rename_i secret exchanged
    obtain ⟨code, shown, -⟩ := secret.shortCode_ok
      (shortCodePurpose m.context m.weStarted pair.publicKey theirKey)
    rw [shown] at underived
    cases underived

/-- A key that is awaited is refused for itself, and never because something of ours is missing. -/
theorem Change.code_of_key {content : KeyContent} {reason : CancelContent}
    (h : m.Change source (.key content) d) (awaits : m.AwaitsKey) (keyed : m.Keyed)
    (verdict : d.turn.verdict = .cancel reason) :
    reason.code = .mismatchedCommitment ∨ reason.code = .invalidMessage := by
  cases h with
  | keyUnexpected early => exact absurd awaits early
  | keyMismatched =>
    cases verdict
    exact .inl rfl
  | starterKeyInvalid role state committed opened underived =>
    cases verdict
    exact .inr (code_of_derive keyed.1 underived)
  | accepterKeyInvalid role state keyPair underived =>
    cases verdict
    exact .inr (code_of_derive (m := { m with state := .waitForKeys false }) keyed.1 underived)
  | starterKey => cases verdict
  | accepterKey => cases verdict

namespace Equipped

/-- Where a state awaits the counterpart's key, its machine does, and has its own. -/
theorem awaitsKey (h : m.Equipped) (state : m.state = .waitForKeys true ∨ m.state = .accept true) :
    m.AwaitsKey ∧ m.Keyed := by
  rcases state with starter | accepter
  · obtain ⟨role, keyed, committed⟩ := h.holds_of_state starter
    exact ⟨.inl ⟨role, starter, committed⟩, keyed⟩
  · obtain ⟨role, keyed⟩ := h.holds_of_state accepter
    exact ⟨.inr ⟨role, accepter, keyed.1⟩, keyed⟩

/-- A key that a state awaits is refused for itself. -/
theorem code_of_key (h : m.Equipped) (state : m.state = .waitForKeys true ∨ m.state = .accept true)
    {content : KeyContent} {reason : CancelContent}
    (refused : (m.handleKey content).2.verdict = .cancel reason) :
    reason.code = .mismatchedCommitment ∨ reason.code = .invalidMessage := by
  obtain ⟨awaits, keyed⟩ := h.awaitsKey state
  have change : m.Change ⟨[]⟩ (.key content)
      ⟨(m.handleKey content).1, ⟨[]⟩, (m.handleKey content).2⟩ := change_of_handleKey content
  exact change.code_of_key awaits keyed refused

/-- A confirmation is computed and goes out wherever the users compare. -/
theorem confirm_ok (h : m.Equipped) (state : m.state.isComparison = true)
    (own theirs : List VerifiableKey) : ∃ content, m.confirm own theirs =
      .ok (m.confirmed, ⟨[.mac content], m.judgePending theirs⟩) := by
  obtain ⟨secret, encoding, shared, written⟩ := h.exists_secret (.inl state)
  obtain ⟨content, computed⟩ := macContent_ok secret encoding m.ownPurpose own
  exact ⟨content, confirm_eq state shared written computed⟩

/-- MACs are refused for themselves. -/
theorem code_of_judge (h : m.Equipped)
    (state : m.state.isComparison = true ∨ m.state = .waitForMacs) {content : MacContent}
    {theirs : List VerifiableKey} {reason : CancelContent}
    (refused : m.judge content theirs = .cancel reason) : reason.code = .keyMismatch := by
  obtain ⟨secret, encoding, shared, written⟩ := h.exists_secret state
  unfold judge at refused
  simp only [shared, written] at refused
  split at refused
  · cases refused
  · cases refused
    rfl

end Equipped

end Machine

/-! ## Runs -/

/-- What holds of a run from a key source that has nothing forgotten. -/
structure Kept (source : KeySource) (r : Run) : Prop where
  machine : r.machine.Equipped
  drawn : ∃ drawn, source.draws = drawn ++ r.source.draws ∧
    drawn.filterMap Except.toOption = r.machine.keyPair.toList
  forward : ∀ e ∈ r.log,
    e.after.state = e.machine.state ∨ e.machine.state.rank < e.after.state.rank

namespace Kept

variable {source : KeySource} {r : Run}

theorem init (generation : Nat) (context : Context) {settings : Settings}
    (known : ∀ mac ∈ settings.macs, mac.isKnown = true) (weStarted : Bool)
    (start : StartContent) (source : KeySource) :
    Kept source (.begin (.init generation context settings weStarted start) source) where
  machine := Machine.equipped_init generation context known weStarted start
  drawn := ⟨[], rfl, rfl⟩
  forward _ mem := by cases mem

theorem refuse (h : Kept source r) (input : Input) (e : ActionError) :
    Kept source (r.refuse input e) where
  machine := h.machine
  drawn := h.drawn
  forward e mem := by
    rcases List.mem_append.1 mem with old | new
    · exact h.forward e old
    · obtain rfl := List.mem_singleton.1 new
      exact .inl rfl

theorem change (h : Kept source r) {input : Input} {d : Machine.Drawn} (kept : input ≠ .release)
    (changed : r.machine.Change r.source input d) : Kept source (r.change input d) where
  machine := changed.equipped kept h.machine
  drawn := by
    obtain ⟨drawn, draws, pairs⟩ := h.drawn
    obtain ⟨taken, rest, drew⟩ := changed.draws kept h.machine
    refine ⟨drawn ++ taken, ?_, ?_⟩
    · rw [draws, rest]
      exact (List.append_assoc _ _ _).symm
    · rw [List.filterMap_append, pairs]
      exact drew
  forward e mem := by
    rcases List.mem_append.1 mem with old | new
    · exact h.forward e old
    · obtain rfl := List.mem_singleton.1 new
      exact changed.forward

theorem steps (h : Kept source r) (inputs : List Input) (kept : .release ∉ inputs) :
    Kept source (r.steps inputs) := by
  refine Run.steps_induction_of (Q := (· ≠ .release)) h ?_ ?_ inputs ?_
  · exact fun r input e h _ => h.refuse input e
  · exact fun r input d h kept changed => h.change kept changed
  · rintro input mem rfl
    exact kept mem

end Kept

/-- **A machine has what its state needs.** Whatever inputs a machine with known MACs takes, as long
as it is not told to forget, it has what its state stands for, and the key source gave at most one
key pair, which is the one that it has. Every input keeps the state or takes it further. So a
confirmation never fails where the users compare, a key that is awaited is never unexpected, and
MACs never come before the secret. -/
theorem machine_is_equipped {m : Machine} {generation : Nat} {context : Context}
    {settings : Settings}
    (made : m = .ownStart generation context settings ∨
      ∃ start, Machine.theirStart generation context settings start = .ok m)
    (known : ∀ mac ∈ settings.macs, mac.isKnown = true) (source : KeySource)
    (inputs : List Input) (kept : .release ∉ inputs) :
    let r := (Run.begin m source).steps inputs
    r.machine.Equipped ∧
      (∃ drawn, source.draws = drawn ++ r.source.draws ∧
        drawn.filterMap Except.toOption = r.machine.keyPair.toList) ∧
      (∀ e ∈ r.log,
        e.after.state = e.machine.state ∨ e.machine.state.rank < e.after.state.rank) ∧
      (r.machine.state.isComparison = true → ∀ own theirs, ∃ content,
        r.machine.confirm own theirs =
          .ok (r.machine.confirmed, ⟨[.mac content], r.machine.judgePending theirs⟩)) ∧
      (r.machine.state = .waitForKeys true ∨ r.machine.state = .accept true →
        ∀ content reason, (r.machine.handleKey content).2.verdict = .cancel reason →
          reason.code = .mismatchedCommitment ∨ reason.code = .invalidMessage) ∧
      (r.machine.state.isComparison = true ∨ r.machine.state = .waitForMacs →
        ∀ content theirs reason, r.machine.judge content theirs = .cancel reason →
          reason.code = .keyMismatch) := by
  have begins : Kept source (.begin m source) := by
    rcases made with rfl | ⟨start, made⟩
    · exact .init generation context known true _ source
    · obtain rfl := Machine.eq_init_of_theirStart made
      exact .init generation context known false start source
  obtain ⟨equipped, drawn, forward⟩ := begins.steps inputs kept
  refine ⟨equipped, drawn, forward, ?_, ?_, ?_⟩
  · intro compares own theirs
    exact equipped.confirm_ok compares own theirs
  · intro state content reason refused
    exact equipped.code_of_key state refused
  · intro state content theirs reason refused
    exact equipped.code_of_judge state refused

/-- Bob's run of Alice's start where the first draw fails: he accepts twice, and takes her key. -/
def sampleRetry : Run :=
  (Run.begin (.init 1 sampleContext .default false (Settings.default.startContent "ALICE"))
    ⟨[.error .nonContributory, .ok (sampleKeyPair 6)]⟩).steps
    [.accept, .accept, .key ⟨(sampleKeyPair 5).publicKey⟩]

/-- Bob compares, with the one key pair that he drew, and can confirm. -/
theorem machine_is_equipped_sample :
    sampleRetry.machine.state.isComparison = true ∧
      sampleRetry.machine.keyPair = some (sampleKeyPair 6) ∧ sampleRetry.machine.Equipped ∧
      ∀ own theirs, ∃ content, sampleRetry.machine.confirm own theirs =
        .ok (sampleRetry.machine.confirmed,
          ⟨[.mac content], sampleRetry.machine.judgePending theirs⟩) := by
  have compares : sampleRetry.machine.state.isComparison = true := by decide +kernel
  have made : Machine.theirStart 1 sampleContext .default (Settings.default.startContent "ALICE") =
      .ok (.init 1 sampleContext .default false (Settings.default.startContent "ALICE")) := rfl
  obtain ⟨equipped, -, -, confirms, -⟩ := machine_is_equipped (.inr ⟨_, made⟩) (by decide)
    ⟨[.error .nonContributory, .ok (sampleKeyPair 6)]⟩
    [.accept, .accept, .key ⟨(sampleKeyPair 5).publicKey⟩] (by simp)
  exact ⟨compares, by decide +kernel, equipped, confirms compares⟩

end Sas

end DeviceVerification
