import DeviceVerification.Proofs.Sas.Run

/-!
# Commit before reveal

The accepting side commits to its key before it sees the other one. `commit_before_reveal` follows
this through every sequence of inputs, on both sides: the key that answers opens the commitment that
went out before it, and the side that started shows a short code only for a key that opens the
commitment it took.
-/

namespace DeviceVerification.Sas

/-- The input by which a machine took an acceptance of its start. -/
def Event.Took (e : Event) (content : AcceptContent) : Prop :=
  e.input = .accepted content ∧ e.machine.state = .ownStart ∧ e.after.state ≠ .ownStart

/-- Whether an acceptance was taken somewhere in a log. -/
def Taken (log : List Event) (accept : AcceptContent) : Prop := ∃ e ∈ log, e.Took accept

@[simp] theorem taken_concat {log : List Event} {e : Event} {accept : AcceptContent} :
    Taken (log ++ [e]) accept ↔ Taken log accept ∨ e.Took accept := by
  simp [Taken, or_and_right, exists_or]

/-- A key answers only the counterpart's key, and it opens the commitments of the acceptances that
were sent before, of which there is one. -/
def RevealsCommitted (canonical : String) (before : List Event) (e : Event) : Prop :=
  ∀ own, .key own ∈ e.outbound →
    (∃ theirs, e.input = .key theirs) ∧ (∃ accept, Emitted before (.accept accept)) ∧
      ∀ accept, Emitted before (.accept accept) →
        verifyCommitment own.key canonical accept.commitment = true

/-- A key goes out when an acceptance is taken. A secret and a short code come only out of a key
that opens the commitment of the acceptance that was taken before; a key that does not open it
cancels the run and leaves it without a secret. -/
structure ChecksCommitment (canonical : String) (before : List Event) (e : Event) : Prop where
  reveals : ∀ own, .key own ∈ e.outbound → ∃ accept, e.Took accept
  shows : e.machine.state.isComparison = false ∧ e.after.state.isComparison = true ∨
      e.machine.secret = none ∧ e.after.secret ≠ none →
    ∃ theirs, e.input = .key theirs ∧ (∃ accept, Taken before accept) ∧
      ∀ accept, Taken before accept →
        verifyCommitment theirs.key canonical accept.commitment = true
  refuses : ∀ theirs accept, e.input = .key theirs → e.machine.state = .waitForKeys true →
    Taken before accept → verifyCommitment theirs.key canonical accept.commitment = false →
      e.machine.secret = none ∧ ∃ source, e.result = .ok ⟨e.machine, source,
        .cancel ⟨.mismatchedCommitment, "key does not match the commitment"⟩⟩

/-! ## The accepting side -/

/-- What holds of a run that answers the counterpart's start. -/
structure Committed (canonical : String) (r : Run) : Prop where
  role : r.machine.weStarted = false
  text : r.machine.canonicalStart = canonical
  ownStart : r.machine.state ≠ .ownStart
  silent : r.machine.state = .theirStart → ∀ accept, ¬Emitted r.log (.accept accept)
  binding : ∀ pair, r.machine.state = .accept true → r.machine.keyPair = some pair →
    (∃ accept, Emitted r.log (.accept accept)) ∧
      ∀ accept, Emitted r.log (.accept accept) →
        verifyCommitment pair.publicKey canonical accept.commitment = true
  log : Grounded (RevealsCommitted canonical) r.log

@[simp] theorem verifyCommitment_commitment (key canonical : String) :
    verifyCommitment key canonical (commitment key canonical) = true := by
  simp [verifyCommitment]

/-- An input that is refused, or that sends neither an acceptance nor a key, reveals nothing. -/
theorem revealsCommitted_of_silent {canonical : String} {before : List Event} {e : Event}
    (silent : ∀ own, .key own ∉ e.outbound) : RevealsCommitted canonical before e :=
  fun own sent => absurd sent (silent own)

namespace Committed

variable {canonical : String} {r : Run}

theorem refuse (h : Committed canonical r) (input : Input) (e : ActionError) :
    Committed canonical (r.refuse input e) where
  role := h.role
  text := h.text
  ownStart := h.ownStart
  silent state accept sent := by
    simp only [Run.refuse, emitted_concat, Event.outbound, List.not_mem_nil, or_false] at sent
    exact h.silent state accept sent
  binding pair state drawn := by
    simpa only [Run.refuse, emitted_concat, Event.outbound, List.not_mem_nil, or_false]
      using h.binding pair state drawn
  log := grounded_concat h.log (revealsCommitted_of_silent fun _ => List.not_mem_nil)

/-- An input that sends neither an acceptance nor a key, and that brings the run to no state in
which its key pair counts, keeps the commitment. -/
theorem change_silent (h : Committed canonical r) {input : Input} {d : Machine.Drawn}
    (accepts : ∀ accept, .accept accept ∉ d.turn.outbound)
    (keys : ∀ own, .key own ∉ d.turn.outbound)
    (role : d.machine.weStarted = r.machine.weStarted)
    (text : d.machine.canonicalStart = r.machine.canonicalStart)
    (ownStart : d.machine.state ≠ .ownStart)
    (theirStart : d.machine.state = .theirStart → r.machine.state = .theirStart)
    (keyPair : ∀ pair, d.machine.state = .accept true → d.machine.keyPair = some pair →
      r.machine.state = .accept true ∧ r.machine.keyPair = some pair) :
    Committed canonical (r.change input d) where
  role := role.trans h.role
  text := text.trans h.text
  ownStart := ownStart
  silent state accept sent := by
    simp only [Run.change, emitted_concat, Event.outbound, accepts, or_false] at sent
    exact h.silent (theirStart state) accept sent
  binding pair state drawn := by
    obtain ⟨state, drawn⟩ := keyPair pair state drawn
    simpa only [Run.change, emitted_concat, Event.outbound, accepts, or_false]
      using h.binding pair state drawn
  log := grounded_concat h.log (revealsCommitted_of_silent keys)

/-- An input that sends nothing and leaves the machine alone keeps the commitment. -/
theorem change_idle (h : Committed canonical r) {input : Input} {source : KeySource}
    {verdict : Verdict} : Committed canonical (r.change input ⟨r.machine, source, ⟨[], verdict⟩⟩) :=
  h.change_silent (fun _ => List.not_mem_nil) (fun _ => List.not_mem_nil) rfl rfl h.ownStart id
    fun _ state drawn => ⟨state, drawn⟩

/-- The acceptance that goes out commits to the key pair that was drawn for it. -/
theorem change_accept (h : Committed canonical r) {agreement : Agreement} {pair : KeyPair}
    {rest : KeySource} (state : r.machine.state = .theirStart) :
    Committed canonical (r.change .accept ⟨r.machine.accepting agreement pair, rest,
      .send (.accept (agreement.acceptContent
        (commitment pair.publicKey r.machine.canonicalStart)))⟩) where
  role := h.role
  text := h.text
  ownStart := by simp [Run.change, Machine.accepting]
  silent := by simp [Run.change, Machine.accepting]
  binding drawn _ keyPair := by
    obtain rfl : pair = drawn := by simpa [Run.change, Machine.accepting] using keyPair
    simp only [Run.change, emitted_concat, h.silent state, Event.outbound, Turn.send,
      List.mem_singleton, Step.accept.injEq, false_or]
    refine ⟨⟨_, rfl⟩, ?_⟩
    rintro accept rfl
    simp [Agreement.acceptContent, h.text]
  log := grounded_concat h.log (revealsCommitted_of_silent (by simp [Event.outbound, Turn.send]))

/-- The key that answers theirs is the one that was committed to. -/
theorem change_accepterKey (h : Committed canonical r) {content : KeyContent} {pair : KeyPair}
    {secret : SharedSecret} {code : ShortCode} (state : r.machine.state = .accept true)
    (keyPair : r.machine.keyPair = some pair) :
    Committed canonical (r.change (.key content)
      ⟨{ r.machine with state := .waitForKeys false }.reveal secret code, r.source,
        .send (.key ⟨pair.publicKey⟩)⟩) where
  role := h.role
  text := h.text
  ownStart := by simp [Run.change, Machine.reveal]
  silent := by simp [Run.change, Machine.reveal]
  binding := by simp [Run.change, Machine.reveal]
  log := by
    refine grounded_concat h.log fun own sent => ⟨⟨content, rfl⟩, ?_⟩
    obtain rfl : own = ⟨pair.publicKey⟩ := by simpa [Event.outbound, Turn.send] using sent
    exact h.binding pair state keyPair

/-- Every input keeps the commitment. -/
theorem change (h : Committed canonical r) {input : Input} {d : Machine.Drawn}
    (changed : Machine.Change r.machine r.source input d) :
    Committed canonical (r.change input d) := by
  cases changed with
  | accept state => exact h.change_accept state
  | accepterKey _ state keyPair => exact h.change_accepterKey state keyPair
  | acceptedUndrawn state | accepted state => exact absurd state h.ownStart
  | starterKeyInvalid role | starterKey role | keyMismatched role =>
    exact absurd (h.role.symm.trans role) (by simp)
  | macHeld =>
    exact h.change_silent (fun _ => List.not_mem_nil) (fun _ => List.not_mem_nil) rfl rfl
      h.ownStart id fun _ state drawn => ⟨state, drawn⟩
  | accepterKeyInvalid =>
    exact h.change_silent (fun _ => List.not_mem_nil) (fun _ => List.not_mem_nil) rfl rfl
      (by simp) (by simp) (by simp)
  | confirm =>
    exact h.change_silent (by simp) (by simp) rfl rfl (by simp [Machine.confirmed])
      (by simp [Machine.confirmed]) (by simp [Machine.confirmed])
  | release =>
    exact h.change_silent (fun _ => List.not_mem_nil) (fun _ => List.not_mem_nil) rfl rfl
      h.ownStart id (by simp [Machine.release])
  | acceptFails | acceptUndrawn | acceptedUnexpected | acceptedUnoffered | keyUnexpected
  | macJudged | macUnexpected | confirmFails | reject => exact h.change_idle

/-- A run that answers a start keeps the commitment to its end. -/
theorem steps (h : Committed canonical r) (inputs : List Input) :
    Committed canonical (r.steps inputs) :=
  Run.steps_induction h (fun _ input e h _ => h.refuse input e)
    (fun _ _ _ h changed => h.change changed) inputs

end Committed

/-! ## The starting side -/

/-- What holds of a run that starts. -/
structure Bound (canonical : String) (r : Run) : Prop where
  role : r.machine.weStarted = true
  text : r.machine.canonicalStart = canonical
  theirStart : r.machine.state ≠ .theirStart
  untaken : r.machine.state = .ownStart → ∀ accept, ¬Taken r.log accept
  taken : r.machine.state ≠ .ownStart → ∃ accept, Taken r.log accept
  recorded : ∀ accept, Taken r.log accept →
    r.machine.theirCommitment = some accept.commitment
  noSecret : r.machine.state = .ownStart ∨ r.machine.state = .waitForKeys true →
    r.machine.secret = none
  log : Grounded (ChecksCommitment canonical) r.log

/-- An input that is no key, sends no key and adds no secret has nothing to check. -/
theorem checksCommitment_of_quiet {canonical : String} {before : List Event} {e : Event}
    (keys : ∀ own, .key own ∉ e.outbound) (input : ∀ theirs, e.input ≠ .key theirs)
    (state : e.after.state.isComparison = true → e.machine.state.isComparison = true)
    (secret : e.machine.secret = none → e.after.secret = none) :
    ChecksCommitment canonical before e where
  reveals own sent := absurd sent (keys own)
  shows := by
    rintro (⟨early, shown⟩ | ⟨none, some⟩)
    · simp [state shown] at early
    · exact absurd (secret none) some
  refuses theirs _ key := absurd key (input theirs)

namespace Bound

variable {canonical : String} {r : Run}

/-- A refused input keeps the bond; a key is never refused. -/
theorem refuse (h : Bound canonical r) {input : Input} {e : ActionError}
    (refused : r.machine.take r.source input = .error e) :
    Bound canonical (r.refuse input e) := by
  have noKey : ∀ theirs, input ≠ .key theirs := by
    rintro theirs rfl
    cases refused
  have untook : ∀ accept, ¬Event.Took ⟨r.machine, input, .error e⟩ accept :=
    fun _ took => took.2.2 took.2.1
  refine ⟨h.role, h.text, h.theirStart, ?_, ?_, ?_, h.noSecret, ?_⟩
  · simpa [Run.refuse, untook] using h.untaken
  · simpa [Run.refuse, untook] using h.taken
  · simpa [Run.refuse, untook] using h.recorded
  · exact grounded_concat h.log (checksCommitment_of_quiet (fun _ => List.not_mem_nil) noKey id id)

/-- An input that takes no acceptance and whose check went as it should keeps the bond. -/
theorem change_checked (h : Bound canonical r) {input : Input} {d : Machine.Drawn}
    (role : d.machine.weStarted = r.machine.weStarted)
    (text : d.machine.canonicalStart = r.machine.canonicalStart)
    (theirStart : d.machine.state ≠ .theirStart)
    (ownStart : d.machine.state = .ownStart ↔ r.machine.state = .ownStart)
    (recorded : d.machine.theirCommitment = r.machine.theirCommitment)
    (noSecret : d.machine.state = .ownStart ∨ d.machine.state = .waitForKeys true →
      d.machine.secret = none)
    (checks : ChecksCommitment canonical r.log ⟨r.machine, input, .ok d⟩) :
    Bound canonical (r.change input d) := by
  have untook : ∀ accept, ¬Event.Took ⟨r.machine, input, .ok d⟩ accept :=
    fun _ took => took.2.2 (ownStart.2 took.2.1)
  refine ⟨role.trans h.role, text.trans h.text, theirStart, ?_, ?_, ?_, noSecret,
    grounded_concat h.log checks⟩
  · simpa [Run.change, untook, ownStart] using h.untaken
  · simpa [Run.change, untook, ownStart] using h.taken
  · simpa [Run.change, untook, recorded] using h.recorded

/-- An input that leaves the machine alone keeps the bond. -/
theorem change_idle (h : Bound canonical r) {input : Input} {source : KeySource}
    {verdict : Verdict}
    (checks : ChecksCommitment canonical r.log
      ⟨r.machine, input, .ok ⟨r.machine, source, ⟨[], verdict⟩⟩⟩) :
    Bound canonical (r.change input ⟨r.machine, source, ⟨[], verdict⟩⟩) :=
  h.change_checked rfl rfl h.theirStart .rfl rfl h.noSecret checks

/-- The acceptance that is taken is the one whose commitment is recorded. -/
theorem change_accepted (h : Bound canonical r) {content : AcceptContent} {d : Machine.Drawn}
    (state : r.machine.state = .ownStart) (role : d.machine.weStarted = r.machine.weStarted)
    (text : d.machine.canonicalStart = r.machine.canonicalStart)
    (after : d.machine.state = .accept false ∨ d.machine.state = .waitForKeys true)
    (recorded : d.machine.theirCommitment = some content.commitment)
    (secret : d.machine.secret = r.machine.secret) :
    Bound canonical (r.change (.accepted content) d) := by
  have ne : d.machine.state ≠ .ownStart := by
    rcases after with eq | eq <;> simp [eq]
  have took : ∀ accept, Event.Took ⟨r.machine, .accepted content, .ok d⟩ accept ↔
      content = accept := by
    simp [Event.Took, Event.after, state, ne]
  refine ⟨role.trans h.role, text.trans h.text, ?_, fun eq => absurd eq ne, fun _ => ?_, ?_,
    fun _ => secret.trans (h.noSecret (.inl state)), grounded_concat h.log ?_⟩
  · rcases after with eq | eq <;> simp [Run.change, eq]
  · exact ⟨content, taken_concat.2 (.inr ((took content).2 rfl))⟩
  · intro accept taken
    rcases taken_concat.1 taken with earlier | now
    · exact absurd earlier (h.untaken state accept)
    · obtain rfl := (took accept).1 now
      exact recorded
  · refine ⟨fun _ _ => ⟨content, (took content).2 rfl⟩, ?_, by simp⟩
    rintro (⟨-, shown⟩ | ⟨none, some⟩)
    · rcases after with eq | eq <;> simp [Event.after, eq, State.isComparison] at shown
    · exact absurd (secret.trans none) some

/-- In the state that takes the key, an acceptance was taken and its commitment is the one that is
checked. -/
theorem taken_iff (h : Bound canonical r) {expected : String}
    (state : r.machine.state = .waitForKeys true)
    (committed : r.machine.theirCommitment = some expected) :
    (∃ accept, Taken r.log accept) ∧
      ∀ accept, Taken r.log accept → accept.commitment = expected := by
  refine ⟨h.taken (by simp [state]), fun accept taken => ?_⟩
  exact Option.some.inj ((h.recorded accept taken).symm.trans committed)

/-- Every input keeps the bond. -/
theorem change (h : Bound canonical r) {input : Input} {d : Machine.Drawn}
    (changed : Machine.Change r.machine r.source input d) : Bound canonical (r.change input d) := by
  cases changed with
  | acceptFails state | acceptUndrawn state | accept state => exact absurd state h.theirStart
  | accepterKeyInvalid role | accepterKey role => exact absurd (h.role.symm.trans role) (by simp)
  | acceptedUndrawn state agrees =>
    exact h.change_accepted state rfl rfl (.inl rfl) rfl rfl
  | accepted state agrees =>
    exact h.change_accepted state rfl rfl (.inr rfl) rfl rfl
  | keyUnexpected early =>
    refine h.change_idle ⟨by simp [Event.outbound], by simp [Event.after], ?_⟩
    intro theirs accept _ state taken _
    exact absurd (.inl ⟨h.role, state, by simp [h.recorded accept taken]⟩) early
  | keyMismatched role state committed mismatch =>
    refine h.change_idle ⟨by simp [Event.outbound], by simp [Event.after], ?_⟩
    exact fun _ _ _ _ _ _ => ⟨h.noSecret (.inr state), _, rfl⟩
  | starterKeyInvalid role state committed opened underived =>
    refine h.change_idle ⟨by simp [Event.outbound], by simp [Event.after], ?_⟩
    intro theirs accept key _ taken mismatch
    obtain rfl := Input.key.inj key
    rw [(h.taken_iff state committed).2 accept taken, ← h.text] at mismatch
    exact absurd (opened.symm.trans mismatch) (by simp)
  | starterKey role state committed opened derived =>
    obtain ⟨taken, same⟩ := h.taken_iff state committed
    refine h.change_checked rfl rfl (by simp [Machine.reveal]) (by simp [Machine.reveal, state])
      rfl (by simp [Machine.reveal]) ⟨by simp [Event.outbound, Turn.idle], fun _ => ?_, ?_⟩
    · refine ⟨_, rfl, taken, fun accept took => ?_⟩
      rw [same accept took, ← h.text]
      exact opened
    · intro theirs accept key _ took mismatch
      obtain rfl := Input.key.inj key
      rw [same accept took, ← h.text] at mismatch
      exact absurd (opened.symm.trans mismatch) (by simp)
  | macHeld =>
    exact h.change_checked rfl rfl h.theirStart .rfl rfl h.noSecret
      (checksCommitment_of_quiet (by simp [Event.outbound, Turn.idle]) (by simp) id id)
  | confirm state =>
    refine h.change_checked rfl rfl (by simp [Machine.confirmed]) ?_ rfl
      (by simp [Machine.confirmed])
      (checksCommitment_of_quiet (by simp [Event.outbound]) (by simp) (by simp [Event.after,
        Machine.confirmed, State.isComparison]) id)
    cases eq : r.machine.state <;> simp [Machine.confirmed, eq, State.isComparison] at state ⊢
  | release =>
    exact h.change_checked rfl rfl h.theirStart .rfl rfl (fun _ => rfl)
      (checksCommitment_of_quiet (by simp [Event.outbound, Turn.idle]) (by simp) id
        (fun _ => rfl))
  | acceptedUnexpected | acceptedUnoffered | macJudged | macUnexpected | confirmFails | reject =>
    exact h.change_idle (checksCommitment_of_quiet (by simp [Event.outbound])
      (by simp) id id)

/-- A run that starts keeps the bond to its end. -/
theorem steps (h : Bound canonical r) (inputs : List Input) :
    Bound canonical (r.steps inputs) :=
  Run.steps_induction h (fun _ _ _ h refused => h.refuse refused)
    (fun _ _ _ h changed => h.change changed) inputs

end Bound

/-- The run of a start of our own, before its first input. -/
theorem bound_ownStart (generation : Nat) (context : Context) (settings : Settings)
    (source : KeySource) :
    Bound ((settings.startContent context.own.device).canonicalText context.transaction)
      (.begin (.ownStart generation context settings) source) where
  role := rfl
  text := rfl
  theirStart := by simp [Run.begin, Machine.ownStart, Machine.init]
  untaken := by simp [Run.begin, Taken]
  taken := by simp [Run.begin, Machine.ownStart, Machine.init]
  recorded := by simp [Run.begin, Taken]
  noSecret _ := rfl
  log := grounded_nil _

/-- The run of the counterpart's start, before its first input. -/
theorem committed_theirStart {generation : Nat} {context : Context} {settings : Settings}
    {start : StartContent} {m : Machine}
    (made : Machine.theirStart generation context settings start = .ok m) (source : KeySource) :
    Committed (start.canonicalText context.transaction) (.begin m source) := by
  obtain rfl := Machine.eq_init_of_theirStart made
  exact {
    role := rfl
    text := rfl
    ownStart := by simp [Run.begin, Machine.init]
    silent := by simp [Run.begin]
    binding := by simp [Run.begin, Machine.init]
    log := grounded_nil _ }

/-- **Commit before reveal.** Whatever the inputs, the side that answers a start reveals only the
key it committed to before, and the side that started reveals its key with an acceptance and
derives a secret only from a key that opens the commitment of that acceptance. -/
theorem commit_before_reveal (generation : Nat) (context : Context) (settings : Settings)
    (source : KeySource) (inputs : List Input) :
    (∀ start m, Machine.theirStart generation context settings start = .ok m →
      Grounded (RevealsCommitted (start.canonicalText context.transaction))
        ((Run.begin m source).steps inputs).log) ∧
    Grounded (ChecksCommitment
        ((settings.startContent context.own.device).canonicalText context.transaction))
      ((Run.begin (.ownStart generation context settings) source).steps inputs).log :=
  ⟨fun _ _ made => ((committed_theirStart made source).steps inputs).log,
    ((bound_ownStart generation context settings source).steps inputs).log⟩

/-! ## A run that reveals -/

/-- The key pair whose private half repeats one byte. -/
def sampleKeyPair (b : UInt8) : KeyPair := ⟨Vector.replicate 32 b⟩

/-- Bob, who answers Alice. -/
def sampleContext : Context := ⟨⟨"@bob:x", "BOB"⟩, ⟨"@alice:x", "ALICE"⟩, .direct "tx"⟩

/-- Bob's run of Alice's start: he accepts, and takes her key. -/
def sampleAnswer : Run :=
  (Run.begin (.init 1 sampleContext .default false (Settings.default.startContent "ALICE"))
    ⟨[.ok (sampleKeyPair 6)]⟩).steps [.accept, .key ⟨(sampleKeyPair 5).publicKey⟩]

/-- Bob's key goes out in that run, after the acceptance it opens. -/
theorem commit_before_reveal_sample :
    (∃ e ∈ sampleAnswer.log, .key ⟨(sampleKeyPair 6).publicKey⟩ ∈ e.outbound) ∧
      Grounded (RevealsCommitted
        ((Settings.default.startContent "ALICE").canonicalText (.direct "tx"))) sampleAnswer.log :=
  ⟨by decide +kernel,
    (commit_before_reveal 1 sampleContext .default ⟨[.ok (sampleKeyPair 6)]⟩
      [.accept, .key ⟨(sampleKeyPair 5).publicKey⟩]).1 _ _ rfl⟩

end DeviceVerification.Sas
