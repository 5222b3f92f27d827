import DeviceVerification.Error
import DeviceVerification.Sas.Mac
import DeviceVerification.Sas.Settings

/-!
# The run of a short authentication string

A `Machine` takes the inputs of one run, local actions and steps of the counterpart, one at a time.
Each input yields the machine after it, the steps to send and a verdict; sending them and recording
trust is the work of the verification that owns the machine.

The accepting side commits to its key before it sees the other one, and the starting side reveals
its key only after the commitment: `accept` sends the commitment, `handleAccept` takes it, and
`handleKey` of the starting side checks it before anything is derived.
-/

namespace DeviceVerification.Sas

/-- How far a run has come. -/
inductive State where
  /-- We sent the start and wait for the acceptance. -/
  | ownStart
  /-- The counterpart sent the start, which we may accept. -/
  | theirStart
  /-- An acceptance went out or came in. -/
  | accept (isOwn : Bool)
  /-- Keys are being exchanged; the flag tells whose key went out last. -/
  | waitForKeys (isOwn : Bool)
  /-- The users compare what both devices show. -/
  | comparison (decimals : Decimals) (emojiIndices : List Nat)
  /-- Our MAC went out and we wait for theirs. -/
  | waitForMacs
  deriving DecidableEq, Repr

namespace State

/-- The name of a state. -/
def name : State → String
  | .ownStart => "own_sas_start"
  | .theirStart => "their_sas_start"
  | .accept _ => "accept"
  | .waitForKeys _ => "wait_for_keys"
  | .comparison _ _ => "comparison_by_user"
  | .waitForMacs => "wait_for_macs"

/-- Whether the users compare. -/
def isComparison : State → Bool
  | .comparison _ _ => true
  | _ => false

end State

/-- Who runs a verification with whom, and in which transaction. -/
structure Context where
  own : Identity
  their : Identity
  transaction : Transaction
  deriving DecidableEq, Repr

/-- What an input means for the verification. -/
inductive Verdict where
  | proceed
  /-- The counterpart authenticated these keys. -/
  | verified (keys : List VerifiableKey)
  | cancel (content : CancelContent)
  deriving DecidableEq, Repr

/-- What an input asks for: steps to send, and then the verdict. -/
structure Turn where
  outbound : List Step
  verdict : Verdict
  deriving DecidableEq

namespace Turn

/-- Nothing is to be done. -/
def idle : Turn := ⟨[], .proceed⟩

/-- A step is to be sent. -/
def send (s : Step) : Turn := ⟨[s], .proceed⟩

/-- The verification is to be cancelled. -/
def cancel (content : CancelContent) : Turn := ⟨[], .cancel content⟩

end Turn

/-- The state of one run. -/
structure Machine where
  /-- Which run of its verification this is. -/
  generation : Nat
  context : Context
  settings : Settings
  weStarted : Bool
  start : StartContent
  agreement : Option Agreement
  theirCommitment : Option String
  keyPair : Option KeyPair
  secret : Option SharedSecret
  pendingMac : Option MacContent
  state : State
  deriving DecidableEq

namespace Machine

/-- The text of the start that both sides hash. -/
def canonicalStart (m : Machine) : String := m.start.canonicalText m.context.transaction

/-- A run at its start. -/
def init (generation : Nat) (context : Context) (settings : Settings) (weStarted : Bool)
    (start : StartContent) : Machine :=
  { generation, context, settings, weStarted, start
    agreement := none
    theirCommitment := none
    keyPair := none
    secret := none
    pendingMac := none
    state := if weStarted then .ownStart else .theirStart }

/-- The run of a start that we are about to send. -/
def ownStart (generation : Nat) (context : Context) (settings : Settings) : Machine :=
  init generation context settings true (settings.startContent context.own.device)

/-- The cancellation for want of common algorithms. -/
def noCommonAlgorithms : CancelContent := ⟨.unknownMethod, "no common SAS algorithms"⟩

/-- The run of a start that the counterpart sent, unless no algorithms can be agreed on. -/
def theirStart (generation : Nat) (context : Context) (settings : Settings)
    (start : StartContent) : Except CancelContent Machine :=
  if (settings.negotiate start).isSome then .ok (init generation context settings false start)
  else .error noCommonAlgorithms

/-- The cancellation for a step that the state does not expect. -/
def unexpected (m : Machine) (step : String) : CancelContent :=
  ⟨.unexpectedMessage, "unexpected " ++ step ++ " in SAS state " ++ m.state.name⟩

/-- The cancellation for a key that could not be drawn. -/
def keyNotDrawn (e : CryptoError) : CancelContent :=
  ⟨.user, "failed to generate key: " ++ e.message⟩

/-- The outcome of an input that draws from a key source. -/
structure Drawn where
  machine : Machine
  source : KeySource
  turn : Turn

/-- Accepts the counterpart's start. -/
def accept (m : Machine) (source : KeySource) : Except ActionError Drawn :=
  if m.state = .theirStart then
    match m.settings.negotiate m.start with
    | none => .ok ⟨m, source, .cancel noCommonAlgorithms⟩
    | some agreement =>
      match source.draw with
      | (.error e, source) => .ok ⟨m, source, .cancel (keyNotDrawn e)⟩
      | (.ok pair, source) =>
        let content := agreement.acceptContent (commitment pair.publicKey m.canonicalStart)
        .ok ⟨{ m with
            keyPair := some pair, agreement := some agreement, state := .accept true },
          source, .send (.accept content)⟩
  else .error (.invalidState "accept" m.state.name)

/-- Takes the acceptance of our start, and reveals our key. -/
def handleAccept (m : Machine) (content : AcceptContent) (source : KeySource) : Drawn :=
  if m.state = .ownStart then
    match m.settings.accepted m.start content with
    | none =>
      ⟨m, source,
        .cancel ⟨.unknownMethod, "accept chose algorithms that were not offered"⟩⟩
    | some agreement =>
      let m := { m with
        agreement := some agreement
        theirCommitment := some content.commitment
        state := .accept false }
      match source.draw with
      | (.error e, source) => ⟨m, source, .cancel (keyNotDrawn e)⟩
      | (.ok pair, source) =>
        ⟨{ m with keyPair := some pair, state := .waitForKeys true }, source,
          .send (.key ⟨pair.publicKey⟩)⟩
  else ⟨m, source, .cancel (m.unexpected "accept")⟩

/-- The purpose of the short code: who started with which key, who accepted with which key. -/
def shortCodePurpose (c : Context) (weStarted : Bool) (ownKey theirKey : String) : String :=
  let part (i : Identity) (key : String) : String := i.user ++ "|" ++ i.device ++ "|" ++ key
  let own := part c.own ownKey
  let their := part c.their theirKey
  "MATRIX_KEY_VERIFICATION_SAS|" ++ (if weStarted then own else their) ++ "|" ++
    (if weStarted then their else own) ++ "|" ++ c.transaction.id

/-- The shared secret with the counterpart's key and the short code that comes out of it. -/
def derive (m : Machine) (theirKey : String) :
    Except CancelContent (SharedSecret × ShortCode) :=
  match m.keyPair with
  | none => .error ⟨.unexpectedMessage, "no key pair for this verification"⟩
  | some pair =>
    match pair.exchange theirKey with
    | .error e => .error ⟨.invalidMessage, "invalid public key: " ++ e.message⟩
    | .ok secret =>
      match secret.shortCode (shortCodePurpose m.context m.weStarted pair.publicKey theirKey) with
      | .error e => .error ⟨.user, e.message⟩
      | .ok code => .ok (secret, code)

/-- The machine that shows a short code. -/
def reveal (m : Machine) (secret : SharedSecret) (code : ShortCode) : Machine :=
  { m with secret := some secret, state := .comparison code.decimals code.emojiIndices }

/-- Takes the counterpart's key in answer to ours: it must be the one that was committed to. -/
def handleKeyAsStarter (m : Machine) (key : String) : Machine × Turn :=
  match m.theirCommitment with
  | none => (m, .cancel (m.unexpected "key"))
  | some expected =>
    if verifyCommitment key m.canonicalStart expected then
      match m.derive key with
      | .ok (secret, code) => (m.reveal secret code, .idle)
      | .error content => (m, .cancel content)
    else (m, .cancel ⟨.mismatchedCommitment, "key does not match the commitment"⟩)

/-- Takes the counterpart's key and answers with ours. -/
def handleKeyAsAccepter (m : Machine) (key : String) : Machine × Turn :=
  match m.keyPair with
  | none => (m, .cancel (m.unexpected "key"))
  | some pair =>
    let m := { m with state := .waitForKeys false }
    match m.derive key with
    | .ok (secret, code) => (m.reveal secret code, .send (.key ⟨pair.publicKey⟩))
    | .error content => (m, .cancel content)

/-- Takes the counterpart's key. -/
def handleKey (m : Machine) (content : KeyContent) : Machine × Turn :=
  if m.weStarted then
    if m.state = .waitForKeys true then m.handleKeyAsStarter content.key
    else (m, .cancel (m.unexpected "key"))
  else
    if m.state = .accept true then m.handleKeyAsAccepter content.key
    else (m, .cancel (m.unexpected "key"))

/-- How MACs are written in this run, once it is agreed. -/
def macEncoding? (m : Machine) : Option MacEncoding := m.agreement.bind (·.macEncoding?)

/-- The purpose of the MACs that we send. -/
def ownPurpose (m : Machine) : String :=
  macPurpose m.context.own m.context.their m.context.transaction.id

/-- The purpose of the MACs that we receive. -/
def theirPurpose (m : Machine) : String :=
  macPurpose m.context.their m.context.own m.context.transaction.id

/-- The verdict on the counterpart's MACs, given the keys that are known of it. -/
def judge (m : Machine) (content : MacContent) (theirKeys : List VerifiableKey) : Verdict :=
  match m.secret, m.macEncoding? with
  | some secret, some encoding =>
    match checkMac secret encoding m.theirPurpose content theirKeys with
    | .ok keys => .verified keys
    | .error failure => .cancel ⟨.keyMismatch, failure.message⟩
  | _, _ => .cancel ⟨.unexpectedMessage, "MAC before key agreement"⟩

/-- Takes the counterpart's MACs. They wait while the user compares, and are checked after that. -/
def handleMac (m : Machine) (content : MacContent) (theirKeys : List VerifiableKey) :
    Machine × Turn :=
  if m.state.isComparison && m.pendingMac.isNone then
    ({ m with pendingMac := some content }, .idle)
  else if m.state = .waitForMacs then (m, ⟨[], m.judge content theirKeys⟩)
  else (m, .cancel (m.unexpected "mac"))

/-- The user saw the same short code on both devices: our MACs go out, and MACs that waited are
checked. -/
def confirm (m : Machine) (ownKeys theirKeys : List VerifiableKey) :
    Except ActionError (Machine × Turn) :=
  match m.state.isComparison, m.secret, m.macEncoding? with
  | true, some secret, some encoding =>
    match macContent secret encoding m.ownPurpose ownKeys with
    | .error e => .ok (m, .cancel ⟨.user, "failed to calculate MAC: " ++ e.message⟩)
    | .ok content =>
      let verdict := match m.pendingMac with
        | some pending => m.judge pending theirKeys
        | none => .proceed
      .ok ({ m with state := .waitForMacs, pendingMac := none }, ⟨[.mac content], verdict⟩)
  | _, _, _ => .error (.invalidState "confirm" m.state.name)

/-- The user saw different short codes. -/
def reject (m : Machine) : Except ActionError Turn :=
  if m.state.isComparison then
    .ok (.cancel ⟨.mismatchedSas, "short authentication strings do not match"⟩)
  else .error (.invalidState "reject" m.state.name)

/-- Forgets everything that is secret. -/
def release (m : Machine) : Machine :=
  { m with keyPair := none, secret := none, pendingMac := none }

/-- Whether the machine holds neither a key pair nor a shared secret. -/
def isReleased (m : Machine) : Bool := m.keyPair.isNone && m.secret.isNone

end Machine

end DeviceVerification.Sas
