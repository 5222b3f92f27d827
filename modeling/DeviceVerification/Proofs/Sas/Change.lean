import DeviceVerification.Sas.Input

/-!
# What an input changes

`Machine.Change` lists everything that an input can do to a run, each case with its guard:
`change_of_take` is the only place where the handlers of the machine are opened, and every invariant
of runs goes by cases on it. The run itself, its peers, its offer and its start, is never changed.
-/

namespace DeviceVerification.Sas.Machine

/-- Whether the machine is the one that takes the counterpart's key next. -/
def AwaitsKey (m : Machine) : Prop :=
  (m.weStarted = true ∧ m.state = .waitForKeys true ∧ m.theirCommitment.isSome) ∨
    (m.weStarted = false ∧ m.state = .accept true ∧ m.keyPair.isSome)

/-- The machine after a key pair answers the counterpart's start. -/
def accepting (m : Machine) (agreement : Agreement) (pair : KeyPair) : Machine :=
  { m with keyPair := some pair, agreement := some agreement, state := .accept true }

/-- The machine after the counterpart accepted our start. -/
def agreed (m : Machine) (agreement : Agreement) (content : AcceptContent) : Machine :=
  { m with
    agreement := some agreement
    theirCommitment := some content.commitment
    state := .accept false }

/-- The machine after our key is revealed to the committed side. -/
def revealing (m : Machine) (pair : KeyPair) : Machine :=
  { m with keyPair := some pair, state := .waitForKeys true }

/-- The machine after our MACs went out. -/
def confirmed (m : Machine) : Machine := { m with state := .waitForMacs, pendingMac := none }

/-- The verdict on MACs that wait for the confirmation, if there are any. -/
def judgePending (m : Machine) (theirKeys : List VerifiableKey) : Verdict :=
  match m.pendingMac with
  | some pending => m.judge pending theirKeys
  | none => .proceed

/-- What an input that is not refused does to a machine and a key source. -/
inductive Change (m : Machine) (source : KeySource) : Input → Drawn → Prop where
  | acceptFails (state : m.state = .theirStart) (none : m.settings.negotiate m.start = none) :
      Change m source .accept ⟨m, source, .cancel noCommonAlgorithms⟩
  | acceptUndrawn {agreement : Agreement} {e : CryptoError} {rest : KeySource}
      (state : m.state = .theirStart) (agrees : m.settings.negotiate m.start = some agreement)
      (drawn : source.draw = (.error e, rest)) :
      Change m source .accept ⟨m, rest, .cancel (keyNotDrawn e)⟩
  | accept {agreement : Agreement} {pair : KeyPair} {rest : KeySource}
      (state : m.state = .theirStart) (agrees : m.settings.negotiate m.start = some agreement)
      (drawn : source.draw = (.ok pair, rest)) :
      Change m source .accept ⟨m.accepting agreement pair, rest,
        .send (.accept (agreement.acceptContent (commitment pair.publicKey m.canonicalStart)))⟩
  | acceptedUnexpected {content : AcceptContent} (state : m.state ≠ .ownStart) :
      Change m source (.accepted content) ⟨m, source, .cancel (m.unexpected "accept")⟩
  | acceptedUnoffered {content : AcceptContent} (state : m.state = .ownStart)
      (none : m.settings.accepted m.start content = none) :
      Change m source (.accepted content) ⟨m, source,
        .cancel ⟨.unknownMethod, "accept chose algorithms that were not offered"⟩⟩
  | acceptedUndrawn {content : AcceptContent} {agreement : Agreement} {e : CryptoError}
      {rest : KeySource} (state : m.state = .ownStart)
      (agrees : m.settings.accepted m.start content = some agreement)
      (drawn : source.draw = (.error e, rest)) :
      Change m source (.accepted content) ⟨m.agreed agreement content, rest,
        .cancel (keyNotDrawn e)⟩
  | accepted {content : AcceptContent} {agreement : Agreement} {pair : KeyPair}
      {rest : KeySource} (state : m.state = .ownStart)
      (agrees : m.settings.accepted m.start content = some agreement)
      (drawn : source.draw = (.ok pair, rest)) :
      Change m source (.accepted content) ⟨(m.agreed agreement content).revealing pair, rest,
        .send (.key ⟨pair.publicKey⟩)⟩
  | keyUnexpected {content : KeyContent} (early : ¬m.AwaitsKey) :
      Change m source (.key content) ⟨m, source, .cancel (m.unexpected "key")⟩
  | keyMismatched {content : KeyContent} {expected : String} (role : m.weStarted = true)
      (state : m.state = .waitForKeys true) (committed : m.theirCommitment = some expected)
      (mismatch : verifyCommitment content.key m.canonicalStart expected = false) :
      Change m source (.key content) ⟨m, source,
        .cancel ⟨.mismatchedCommitment, "key does not match the commitment"⟩⟩
  | starterKeyInvalid {content : KeyContent} {expected : String} {reason : CancelContent}
      (role : m.weStarted = true) (state : m.state = .waitForKeys true)
      (committed : m.theirCommitment = some expected)
      (opened : verifyCommitment content.key m.canonicalStart expected = true)
      (underived : m.derive content.key = .error reason) :
      Change m source (.key content) ⟨m, source, .cancel reason⟩
  | starterKey {content : KeyContent} {expected : String} {secret : SharedSecret}
      {code : ShortCode} (role : m.weStarted = true) (state : m.state = .waitForKeys true)
      (committed : m.theirCommitment = some expected)
      (opened : verifyCommitment content.key m.canonicalStart expected = true)
      (derived : m.derive content.key = .ok (secret, code)) :
      Change m source (.key content) ⟨m.reveal secret code, source, .idle⟩
  | accepterKeyInvalid {content : KeyContent} {pair : KeyPair} {reason : CancelContent}
      (role : m.weStarted = false) (state : m.state = .accept true)
      (keyPair : m.keyPair = some pair)
      (underived : { m with state := .waitForKeys false }.derive content.key = .error reason) :
      Change m source (.key content) ⟨{ m with state := .waitForKeys false }, source,
        .cancel reason⟩
  | accepterKey {content : KeyContent} {pair : KeyPair} {secret : SharedSecret}
      {code : ShortCode} (role : m.weStarted = false) (state : m.state = .accept true)
      (keyPair : m.keyPair = some pair)
      (derived : { m with state := .waitForKeys false }.derive content.key = .ok (secret, code)) :
      Change m source (.key content) ⟨{ m with state := .waitForKeys false }.reveal secret code,
        source, .send (.key ⟨pair.publicKey⟩)⟩
  | macHeld {content : MacContent} {theirKeys : List VerifiableKey}
      (state : m.state.isComparison = true) (first : m.pendingMac = none) :
      Change m source (.mac content theirKeys) ⟨{ m with pendingMac := some content }, source,
        .idle⟩
  | macJudged {content : MacContent} {theirKeys : List VerifiableKey}
      (state : m.state = .waitForMacs) :
      Change m source (.mac content theirKeys) ⟨m, source, ⟨[], m.judge content theirKeys⟩⟩
  | macUnexpected {content : MacContent} {theirKeys : List VerifiableKey}
      (state : m.state ≠ .waitForMacs)
      (again : m.state.isComparison = true → m.pendingMac.isSome) :
      Change m source (.mac content theirKeys) ⟨m, source, .cancel (m.unexpected "mac")⟩
  | confirmFails {ownKeys theirKeys : List VerifiableKey} {secret : SharedSecret}
      {encoding : MacEncoding} {e : CryptoError} (state : m.state.isComparison = true)
      (known : m.secret = some secret) (written : m.macEncoding? = some encoding)
      (uncomputed : macContent secret encoding m.ownPurpose ownKeys = .error e) :
      Change m source (.confirm ownKeys theirKeys) ⟨m, source,
        .cancel ⟨.user, "failed to calculate MAC: " ++ e.message⟩⟩
  | confirm {ownKeys theirKeys : List VerifiableKey} {secret : SharedSecret}
      {encoding : MacEncoding} {content : MacContent} (state : m.state.isComparison = true)
      (known : m.secret = some secret) (written : m.macEncoding? = some encoding)
      (computed : macContent secret encoding m.ownPurpose ownKeys = .ok content) :
      Change m source (.confirm ownKeys theirKeys) ⟨m.confirmed, source,
        ⟨[.mac content], m.judgePending theirKeys⟩⟩
  | reject (state : m.state.isComparison = true) :
      Change m source .reject ⟨m, source,
        .cancel ⟨.mismatchedSas, "short authentication strings do not match"⟩⟩
  | release : Change m source .release ⟨m.release, source, .idle⟩

variable {m : Machine} {source : KeySource}

theorem change_of_accept {d : Drawn} (h : m.accept source = .ok d) :
    Change m source .accept d := by
  unfold Machine.accept at h
  split at h
  · rename_i state
    split at h
    · rename_i none
      cases h
      exact .acceptFails state none
    · rename_i agreement agrees
      split at h
      · rename_i e rest drawn
        cases h
        exact .acceptUndrawn state agrees drawn
      · rename_i pair rest drawn
        cases h
        exact .accept state agrees drawn
  · cases h

theorem change_of_handleAccept (content : AcceptContent) :
    Change m source (.accepted content) (m.handleAccept content source) := by
  unfold handleAccept
  split
  · rename_i state
    split
    · rename_i none
      exact .acceptedUnoffered state none
    · rename_i agreement agrees
      simp only
      split
      · rename_i e rest drawn
        exact .acceptedUndrawn state agrees drawn
      · rename_i pair rest drawn
        exact .accepted state agrees drawn
  · rename_i state
    exact .acceptedUnexpected state

theorem change_of_handleKey (content : KeyContent) :
    Change m source (.key content)
      ⟨(m.handleKey content).1, source, (m.handleKey content).2⟩ := by
  unfold handleKey
  cases role : m.weStarted with
  | true =>
    simp only [↓reduceIte]
    split
    · rename_i state
      unfold handleKeyAsStarter
      split
      · rename_i committed
        exact .keyUnexpected (by simp [AwaitsKey, role, committed])
      · rename_i expected committed
        split
        · rename_i opened
          split
          · rename_i secret code derived
            exact .starterKey role state committed opened derived
          · rename_i reason underived
            exact .starterKeyInvalid role state committed opened underived
        · rename_i mismatch
          exact .keyMismatched role state committed (by simpa using mismatch)
    · rename_i state
      exact .keyUnexpected (by simp [AwaitsKey, role, state])
  | false =>
    simp only [Bool.false_eq_true, ↓reduceIte]
    split
    · rename_i state
      unfold handleKeyAsAccepter
      split
      · rename_i keyPair
        exact .keyUnexpected (by simp [AwaitsKey, role, keyPair])
      · rename_i pair keyPair
        simp only
        split
        · rename_i secret code derived
          exact .accepterKey role state keyPair derived
        · rename_i reason underived
          exact .accepterKeyInvalid role state keyPair underived
    · rename_i state
      exact .keyUnexpected (by simp [AwaitsKey, role, state])

theorem change_of_handleMac (content : MacContent) (theirKeys : List VerifiableKey) :
    Change m source (.mac content theirKeys)
      ⟨(m.handleMac content theirKeys).1, source, (m.handleMac content theirKeys).2⟩ := by
  unfold handleMac
  split
  · rename_i state
    simp only [Bool.and_eq_true, Option.isNone_iff_eq_none] at state
    exact .macHeld state.1 state.2
  · rename_i early
    split
    · rename_i state
      exact .macJudged state
    · rename_i state
      refine .macUnexpected state fun comparison => ?_
      simpa [comparison, ← Option.ne_none_iff_isSome] using early

theorem change_of_confirm {ownKeys theirKeys : List VerifiableKey} {turn : Machine × Turn}
    (h : m.confirm ownKeys theirKeys = .ok turn) :
    Change m source (.confirm ownKeys theirKeys) ⟨turn.1, source, turn.2⟩ := by
  unfold Machine.confirm at h
  split at h
  · rename_i secret encoding state known written
    split at h
    · rename_i e uncomputed
      cases h
      exact .confirmFails state known written uncomputed
    · rename_i content computed
      cases h
      exact .confirm state known written computed
  · cases h

theorem change_of_reject {turn : Turn} (h : m.reject = .ok turn) :
    Change m source .reject ⟨m, source, turn⟩ := by
  unfold Machine.reject at h
  split at h
  · rename_i state
    cases h
    exact .reject state
  · cases h

/-- Everything that an input can do to a machine. -/
theorem change_of_take {input : Input} {d : Drawn} (h : m.take source input = .ok d) :
    Change m source input d := by
  cases input with
  | accept => exact change_of_accept h
  | accepted content =>
    cases h
    exact change_of_handleAccept content
  | key content =>
    cases h
    exact change_of_handleKey content
  | mac content theirKeys =>
    cases h
    exact change_of_handleMac content theirKeys
  | confirm ownKeys theirKeys =>
    simp only [take] at h
    cases c : m.confirm ownKeys theirKeys with
    | error e => simp [c, Except.map] at h
    | ok turn =>
      rw [c] at h
      cases h
      exact change_of_confirm c
  | reject =>
    simp only [take] at h
    cases c : m.reject with
    | error e => simp [c, Except.map] at h
    | ok turn =>
      rw [c] at h
      cases h
      exact change_of_reject c
  | release =>
    cases h
    exact .release

/-- A run of the counterpart's start that can be agreed on is one at its start. -/
theorem eq_init_of_theirStart {generation : Nat} {context : Context} {settings : Settings}
    {start : StartContent} (made : Machine.theirStart generation context settings start = .ok m) :
    m = init generation context settings false start := by
  unfold Machine.theirStart at made
  split at made
  · cases made
    rfl
  · cases made

/-! ## Turns -/

/-- A confirmation that can be computed goes out, and MACs that waited are judged. -/
theorem confirm_eq {ownKeys theirKeys : List VerifiableKey} {secret : SharedSecret}
    {encoding : MacEncoding} {content : MacContent} (state : m.state.isComparison = true)
    (known : m.secret = some secret) (written : m.macEncoding? = some encoding)
    (computed : macContent secret encoding m.ownPurpose ownKeys = .ok content) :
    m.confirm ownKeys theirKeys =
      .ok (m.confirmed, ⟨[.mac content], m.judgePending theirKeys⟩) := by
  cases waiting : m.pendingMac <;>
    simp [Machine.confirm, state, known, written, computed, confirmed, judgePending, waiting]

/-- Keys are verified when MACs over them are accepted. -/
theorem judge_eq_verified_iff {content : MacContent} {theirKeys keys : List VerifiableKey} :
    m.judge content theirKeys = .verified keys ↔
      ∃ secret encoding, m.secret = some secret ∧ m.macEncoding? = some encoding ∧
        checkMac secret encoding m.theirPurpose content theirKeys = .ok keys := by
  unfold judge
  split
  · rename_i secret encoding known written
    split
    · rename_i verified checked
      simp [known, written, checked]
    · rename_i failure checked
      simp [known, written, checked]
  · rename_i missing
    simp only [reduceCtorEq, false_iff, not_exists, not_and]
    intro secret encoding known written
    exact absurd written (missing secret encoding known)

/-- A machine hands out nothing that ends a verification. -/
theorem Change.done_not_mem {input : Input} {d : Drawn} (h : Change m source input d) :
    .done ∉ d.turn.outbound := by
  cases h <;> simp [Turn.send, Turn.idle, Turn.cancel]

/-- Keys are verified by MACs that come in after the confirmation, or by a confirmation that comes
after the MACs. -/
theorem Change.verified_cases {input : Input} {d : Drawn} {keys : List VerifiableKey}
    (h : Change m source input d) (verdict : d.turn.verdict = .verified keys) :
    ∃ content theirKeys, m.judge content theirKeys = .verified keys ∧
      (input = .mac content theirKeys ∧ m.state = .waitForMacs ∨
        ∃ ownKeys, input = .confirm ownKeys theirKeys ∧ m.state.isComparison = true ∧
          m.pendingMac = some content ∧
          m.confirm ownKeys theirKeys = .ok (m.confirmed, d.turn)) := by
  cases h with
  | macJudged state => exact ⟨_, _, verdict, .inl ⟨rfl, state⟩⟩
  | confirm state known written computed =>
    have judged := verdict
    simp only [judgePending] at judged
    split at judged
    · rename_i content pending
      exact ⟨content, _, judged,
        .inr ⟨_, rfl, state, pending, confirm_eq state known written computed⟩⟩
    · cases judged
  | _ => cases verdict

end DeviceVerification.Sas.Machine
