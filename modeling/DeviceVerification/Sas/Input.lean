import DeviceVerification.Sas.Machine

/-!
# Inputs of a run

The inputs of a `Machine` as data: every run is a list of them, taken one at a time by
`Machine.take`. A refused input leaves the machine and the key source as they were.
-/

namespace DeviceVerification.Sas

/-- An input of a run. -/
inductive Input where
  /-- The user accepts the counterpart's start. -/
  | accept
  /-- The counterpart accepts our start. -/
  | accepted (content : AcceptContent)
  /-- The counterpart reveals its key. -/
  | key (content : KeyContent)
  /-- The counterpart authenticates its keys; these are the ones that are known of it. -/
  | mac (content : MacContent) (theirKeys : List VerifiableKey)
  /-- The user saw the same short code on both devices. -/
  | confirm (ownKeys theirKeys : List VerifiableKey)
  /-- The user saw different short codes. -/
  | reject
  /-- Everything secret is forgotten. -/
  | release
  deriving DecidableEq

/-- Takes an input. -/
def Machine.take (m : Machine) (source : KeySource) : Input → Except ActionError Machine.Drawn
  | .accept => m.accept source
  | .accepted content => .ok (m.handleAccept content source)
  | .key content => .ok ⟨(m.handleKey content).1, source, (m.handleKey content).2⟩
  | .mac content theirKeys =>
    .ok ⟨(m.handleMac content theirKeys).1, source, (m.handleMac content theirKeys).2⟩
  | .confirm ownKeys theirKeys =>
    (m.confirm ownKeys theirKeys).map fun turn => ⟨turn.1, source, turn.2⟩
  | .reject => m.reject.map fun turn => ⟨m, source, turn⟩
  | .release => .ok ⟨m.release, source, .idle⟩

end DeviceVerification.Sas
