import DeviceVerification.Proofs.Peers.Stage
import DeviceVerification.Proofs.Sas.Change

/-!
# The machine of an honest side

`At` says what a machine looks like at a point of its run. An input that the point awaits brings the
run to a point with what was sent and taken, verifies the counterpart, or cancels the run; the
reason is never an unexpected message (`At.moved`).
-/

namespace DeviceVerification.Peers

/-- A cancellation that is none for an unexpected message. -/
def Calm (content : CancelContent) : Prop := content.code ≠ .unexpectedMessage

theorem calm_mk {code : CancelCode} (h : code ≠ .unexpectedMessage) (reason : String) :
    Calm ⟨code, reason⟩ := h

/-- What the counterpart may rely on about a step: the device that it names is its sender, and it is
no cancellation for an unexpected message. -/
structure Honest (us : Identity) (step : Step) : Prop where
  device : ∀ device, step.fromDevice? = some device → device = us.device
  calm : ∀ content, step = .cancel content → Calm content

/-- What a machine looks like at a point of its run. -/
inductive At : Bool → Point → Sas.Machine → Prop where
  | ownStart {m : Sas.Machine} (role : m.weStarted = true) (state : m.state = .ownStart)
      (free : m.pendingMac = none) : At true .offered m
  | theirStart {m : Sas.Machine} (role : m.weStarted = false) (state : m.state = .theirStart)
      (free : m.pendingMac = none) : At false .offered m
  | revealed {m : Sas.Machine} (role : m.weStarted = true) (state : m.state = .waitForKeys true)
      (free : m.pendingMac = none) (keyPair : m.keyPair.isSome)
      (committed : m.theirCommitment.isSome) : At true .agreed m
  | accepted {m : Sas.Machine} (role : m.weStarted = false) (state : m.state = .accept true)
      (free : m.pendingMac = none) (keyPair : m.keyPair.isSome) : At false .agreed m
  | comparing {starter pending : Bool} {m : Sas.Machine} (state : m.state.isComparison = true)
      (held : m.pendingMac.isSome = pending) : At starter (.comparing pending) m
  | confirmed {starter : Bool} {m : Sas.Machine} (state : m.state = .waitForMacs)
      (secret : m.secret.isSome) (encoding : m.macEncoding?.isSome) : At starter .confirmed m

/-- The kind of the step that an input of a machine is. -/
def takes : Sas.Input → List StepKind
  | .accepted _ => [.accept]
  | .key _ => [.key]
  | .mac _ _ => [.mac]
  | _ => []

/-- What an input does at a point: the run goes on at a point with what was sent and taken, or it is
cancelled for a reason that is no unexpected message, or the counterpart is verified. -/
inductive Moved (starter raced : Bool) (point : Point) (input : Sas.Input)
    (d : Sas.Machine.Drawn) : Prop where
  | goes (point' : Point)
      (sent : point'.sent starter raced =
        point.sent starter raced ++ d.turn.outbound.map (·.kind))
      (taken : point'.taken starter raced = point.taken starter raced ++ takes input)
      (verdict : d.turn.verdict = .proceed) (at_ : At starter point' d.machine)
  | cancels (point' : Point) (content : CancelContent)
      (sent : point'.sent starter raced =
        point.sent starter raced ++ d.turn.outbound.map (·.kind))
      (taken : point'.taken starter raced <+: point.taken starter raced ++ takes input)
      (verdict : d.turn.verdict = .cancel content) (calm : Calm content)
  | verifies (keys : List VerifiableKey)
      (sent : Point.confirmed.sent starter raced =
        point.sent starter raced ++ d.turn.outbound.map (·.kind))
      (taken : Point.confirmed.taken starter raced ++ [.mac] =
        point.taken starter raced ++ takes input)
      (verdict : d.turn.verdict = .verified keys)

namespace At

variable {starter raced : Bool} {point : Point} {m : Sas.Machine} {source : KeySource}
  {input : Sas.Input} {d : Sas.Machine.Drawn}

/-- A cancellation without steps stays at its point. -/
theorem moved_of_cancel (content : CancelContent) (silent : d.turn = .cancel content)
    (calm : Calm content) : Moved starter raced point input d := by
  refine .cancels point content ?_ (List.prefix_append _ _) (by rw [silent]; rfl) calm
  rw [silent]
  exact (List.append_nil _).symm

/-- A key pair that is there fails only for the counterpart's key. -/
theorem derive_calm {key : String} {reason : CancelContent} (keyPair : m.keyPair.isSome)
    (underived : m.derive key = .error reason) : Calm reason := by
  obtain ⟨pair, drawn⟩ := Option.isSome_iff_exists.1 keyPair
  simp only [Sas.Machine.derive, drawn] at underived
  split at underived
  · cases underived
    exact calm_mk (by decide) _
  · split at underived
    · cases underived
      exact calm_mk (by decide) _
    · cases underived

/-- The verdict on MACs where there is a secret and an encoding. -/
theorem judge_cases (secret : m.secret.isSome) (encoding : m.macEncoding?.isSome)
    (content : MacContent) (known : List VerifiableKey) :
    (∃ keys, m.judge content known = .verified keys) ∨
      ∃ reason, m.judge content known = .cancel reason ∧
        Calm reason := by
  obtain ⟨s, secret⟩ := Option.isSome_iff_exists.1 secret
  obtain ⟨e, encoding⟩ := Option.isSome_iff_exists.1 encoding
  simp only [Sas.Machine.judge, secret, encoding]
  split
  · exact .inl ⟨_, rfl⟩
  · exact .inr ⟨_, rfl, calm_mk (by decide) _⟩

/-- Accepting the counterpart's start. -/
theorem moved_of_accept (h : At starter point m) (changed : m.Change source .accept d) :
    Moved starter raced point .accept d := by
  cases changed with
  | acceptFails => exact moved_of_cancel _ rfl (calm_mk (by decide) _)
  | acceptUndrawn => exact moved_of_cancel _ rfl (calm_mk (by decide) _)
  | accept state =>
    cases h with
    | theirStart role _ free =>
      exact .goes .agreed (by simp [Point.sent, Sas.Turn.send, Step.kind])
        (by simp [Point.taken, takes]) rfl (.accepted role rfl free rfl)
    | ownStart _ other | revealed _ other | accepted _ other | confirmed other =>
      exact absurd (state.symm.trans other) (by simp)
    | comparing shown => simp [state, Sas.State.isComparison] at shown

/-- The acceptance of our start. -/
theorem moved_of_accepted (h : At starter point m) {content : AcceptContent}
    (changed : m.Change source (.accepted content) d)
    (awaited : point.awaits starter raced .accept = true) :
    Moved starter raced point (.accepted content) d := by
  cases h with
  | ownStart role state free =>
    cases changed with
    | acceptedUnexpected other => exact absurd state other
    | acceptedUnoffered => exact moved_of_cancel _ rfl (calm_mk (by decide) _)
    | acceptedUndrawn => exact moved_of_cancel _ rfl (calm_mk (by decide) _)
    | accepted =>
      exact .goes .agreed (by simp [Point.sent, Sas.Turn.send, Step.kind])
        (by simp [Point.taken, takes]) rfl (.revealed role rfl free rfl rfl)
  | _ => simp [Point.awaits] at awaited

/-- The counterpart's key. -/
theorem moved_of_key (h : At starter point m) {content : KeyContent}
    (changed : m.Change source (.key content) d)
    (awaited : point.awaits starter raced .key = true) :
    Moved starter raced point (.key content) d := by
  cases h with
  | revealed role state free keyPair committed =>
    cases changed with
    | keyUnexpected early => exact absurd (.inl ⟨role, state, committed⟩) early
    | keyMismatched => exact moved_of_cancel _ rfl (calm_mk (by decide) _)
    | starterKeyInvalid _ _ _ _ underived =>
      exact moved_of_cancel _ rfl (derive_calm keyPair underived)
    | starterKey =>
      exact .goes (.comparing false) (by simp [Point.sent, keys, Sas.Turn.idle])
        (by simp [Point.taken, keys, takes]) rfl
        (.comparing rfl (by simp [Sas.Machine.reveal, free]))
    | accepterKeyInvalid other | accepterKey other =>
      exact absurd (role.symm.trans other) (by simp)
  | accepted role state free keyPair =>
    cases changed with
    | keyUnexpected early => exact absurd (.inr ⟨role, state, keyPair⟩) early
    | accepterKeyInvalid _ _ _ underived =>
      exact moved_of_cancel _ rfl (derive_calm (by exact keyPair) underived)
    | accepterKey =>
      exact .goes (.comparing false) (by simp [Point.sent, keys, Sas.Turn.send, Step.kind])
        (by simp [Point.taken, keys, takes]) rfl
        (.comparing rfl (by simp [Sas.Machine.reveal, free]))
    | keyMismatched other | starterKeyInvalid other | starterKey other =>
      exact absurd (role.symm.trans other) (by simp)
  | _ => simp [Point.awaits] at awaited

/-- The counterpart's MACs. -/
theorem moved_of_mac (h : At starter point m) {content : MacContent}
    {known : List VerifiableKey} (changed : m.Change source (.mac content known) d)
    (awaited : point.awaits starter raced .mac = true) :
    Moved starter raced point (.mac content known) d := by
  cases h with
  | @comparing _ pending _ state held =>
    obtain rfl : pending = false := by simpa [Point.awaits] using awaited
    cases changed with
    | macHeld =>
      exact .goes (.comparing true) (by simp [Point.sent, Sas.Turn.idle])
        (by simp [Point.taken, takes]) rfl (.comparing state rfl)
    | macJudged other => simp [other, Sas.State.isComparison] at state
    | macUnexpected _ again => simp [again state] at held
  | confirmed state secret encoding =>
    cases changed with
    | macHeld other => simp [state, Sas.State.isComparison] at other
    | macUnexpected other => exact absurd state other
    | macJudged =>
      rcases judge_cases secret encoding content known with ⟨keys, judged⟩ | ⟨reason, judged, calm⟩
      · exact .verifies keys (by simp) (by simp [Point.taken, takes]) judged
      · exact .cancels .confirmed reason (by simp) (List.prefix_append _ _) judged calm
  | _ => simp [Point.awaits] at awaited

/-- Our confirmation. -/
theorem moved_of_confirm (h : At starter point m) {own known : List VerifiableKey}
    (changed : m.Change source (.confirm own known) d) :
    Moved starter raced point (.confirm own known) d := by
  cases changed with
  | confirmFails => exact moved_of_cancel _ rfl (calm_mk (by decide) _)
  | confirm state secret encoding =>
    cases h with
    | @comparing _ pending _ _ held =>
      have sent : Point.confirmed.sent starter raced =
          (Point.comparing pending).sent starter raced ++ [.mac] := rfl
      cases waiting : m.pendingMac with
      | none =>
        obtain rfl : false = pending := by simpa [waiting] using held
        exact .goes .confirmed sent (by simp [Point.taken, takes])
          (by simp [Sas.Machine.judgePending, waiting])
          (.confirmed rfl (by simp [Sas.Machine.confirmed, secret])
            (by simpa [Sas.Machine.confirmed, Sas.Machine.macEncoding?] using
              Option.isSome_of_eq_some encoding))
      | some content =>
        obtain rfl : true = pending := by simpa [waiting] using held
        have verdict : m.judgePending known = m.judge content known := by
          simp [Sas.Machine.judgePending, waiting]
        rcases judge_cases (Option.isSome_of_eq_some secret) (Option.isSome_of_eq_some encoding)
          content known with ⟨keys, judged⟩ | ⟨reason, judged, calm⟩
        · exact .verifies keys sent (by simp [Point.taken, takes]) (verdict.trans judged)
        · exact .cancels .confirmed reason sent (by simp [Point.taken, takes])
            (verdict.trans judged) calm
    | ownStart _ other | theirStart _ other | revealed _ other | accepted _ other
    | confirmed other => simp [other, Sas.State.isComparison] at state

/-- Our rejection. -/
theorem moved_of_reject (changed : m.Change source .reject d) :
    Moved starter raced point .reject d := by
  cases changed with
  | reject => exact moved_of_cancel _ rfl (calm_mk (by decide) _)

/-- Every input that the point awaits. -/
theorem moved (raced : Bool) (h : At starter point m) (changed : m.Change source input d)
    (awaited : ∀ kind ∈ takes input, point.awaits starter raced kind = true)
    (kept : input ≠ .release) : Moved starter raced point input d := by
  cases input with
  | accept => exact h.moved_of_accept changed
  | accepted content => exact h.moved_of_accepted changed (awaited _ (List.mem_singleton_self _))
  | key content => exact h.moved_of_key changed (awaited _ (List.mem_singleton_self _))
  | mac content known => exact h.moved_of_mac changed (awaited _ (List.mem_singleton_self _))
  | confirm own known => exact h.moved_of_confirm changed
  | reject => exact moved_of_reject changed
  | release => exact absurd rfl kept

/-- A machine hands out steps that name no device and cancel nothing. -/
theorem unnamed_of_change (changed : m.Change source input d) :
    ∀ step ∈ d.turn.outbound, step.fromDevice? = none ∧ ∀ content, step ≠ .cancel content := by
  intro step mem
  cases changed <;> simp only [Sas.Turn.send, Sas.Turn.idle, Sas.Turn.cancel, List.not_mem_nil,
    List.mem_singleton] at mem <;> subst mem <;> exact ⟨rfl, by simp⟩

/-- A machine hands out only steps that the counterpart may rely on. -/
theorem honest_of_change {us : Identity} (changed : m.Change source input d) :
    ∀ step ∈ d.turn.outbound, Honest us step := by
  intro step mem
  obtain ⟨unnamed, ordinary⟩ := unnamed_of_change changed step mem
  constructor
  · intro device named
    cases unnamed.symm.trans named
  · intro content same
    exact absurd same (ordinary content)

end At

end DeviceVerification.Peers
