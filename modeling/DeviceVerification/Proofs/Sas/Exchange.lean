import Mathlib.Data.List.Permutation
import DeviceVerification.Proofs.Sas.Commitment
import DeviceVerification.Proofs.Sas.MacExchange
import DeviceVerification.Proofs.Sas.Negotiation

/-!
# Two machines that exchange their steps

A `Duet` is the run of a start between the device that sent it and the device that answers it, with
the steps that are under way between them. `exchange_verifies` says that two honest sides with
algorithms in common show the same short code, and that both verify the other once both users
confirmed, in whatever order the confirmations and the MACs arrive.
-/

namespace DeviceVerification.Sas

/-! ## What each input does on its way -/

namespace Machine

variable {m : Machine} {source : KeySource}

theorem take_accept {agreement : Agreement} {pair : KeyPair} {rest : KeySource}
    (state : m.state = .theirStart) (agrees : m.settings.negotiate m.start = some agreement)
    (drawn : source.draw = (.ok pair, rest)) :
    m.take source .accept = .ok ⟨m.accepting agreement pair, rest,
      .send (.accept (agreement.acceptContent (commitment pair.publicKey m.canonicalStart)))⟩ := by
  simp [take, Machine.accept, state, agrees, drawn, accepting]

theorem take_accepted {content : AcceptContent} {agreement : Agreement} {pair : KeyPair}
    {rest : KeySource} (state : m.state = .ownStart)
    (agrees : m.settings.accepted m.start content = some agreement)
    (drawn : source.draw = (.ok pair, rest)) :
    m.take source (.accepted content) = .ok ⟨(m.agreed agreement content).revealing pair, rest,
      .send (.key ⟨pair.publicKey⟩)⟩ := by
  simp [take, handleAccept, state, agrees, drawn, agreed, revealing]

/-- The secret and the short code of a key pair that agrees with the counterpart's key. -/
theorem derive_eq {pair : KeyPair} {theirs : String} {secret : SharedSecret} {code : ShortCode}
    (keyPair : m.keyPair = some pair) (exchanged : pair.exchange theirs = .ok secret)
    (shown : secret.shortCode (shortCodePurpose m.context m.weStarted pair.publicKey theirs) =
      .ok code) : m.derive theirs = .ok (secret, code) := by
  simp [derive, keyPair, exchanged, shown]

theorem take_key_of_starter {content : KeyContent} {expected : String} {secret : SharedSecret}
    {code : ShortCode} (role : m.weStarted = true) (state : m.state = .waitForKeys true)
    (committed : m.theirCommitment = some expected)
    (opened : verifyCommitment content.key m.canonicalStart expected = true)
    (derived : m.derive content.key = .ok (secret, code)) :
    m.take source (.key content) = .ok ⟨m.reveal secret code, source, .idle⟩ := by
  simp [take, handleKey, role, state, handleKeyAsStarter, committed, opened, derived]

theorem take_key_of_accepter {content : KeyContent} {pair : KeyPair} {secret : SharedSecret}
    {code : ShortCode} (role : m.weStarted = false) (state : m.state = .accept true)
    (keyPair : m.keyPair = some pair)
    (derived : { m with state := .waitForKeys false }.derive content.key = .ok (secret, code)) :
    m.take source (.key content) = .ok ⟨{ m with state := .waitForKeys false }.reveal secret code,
      source, .send (.key ⟨pair.publicKey⟩)⟩ := by
  have answered : m.handleKeyAsAccepter content.key =
      ({ m with state := .waitForKeys false }.reveal secret code,
        .send (.key ⟨pair.publicKey⟩)) := by
    unfold handleKeyAsAccepter
    split
    · rename_i missing
      exact absurd (keyPair.symm.trans missing) (by simp)
    · rename_i drawn same
      obtain rfl := Option.some.inj (same.symm.trans keyPair)
      simp only [derived]
  have handled : m.handleKey content = m.handleKeyAsAccepter content.key := by
    simp [handleKey, role, state]
  show Except.ok (Drawn.mk (m.handleKey content).1 source (m.handleKey content).2) = _
  rw [handled, answered]

theorem take_confirm {own known : List VerifiableKey} {secret : SharedSecret}
    {encoding : MacEncoding} {ours : MacContent} (state : m.state.isComparison = true)
    (agreed : m.secret = some secret) (written : m.macEncoding? = some encoding)
    (computed : macContent secret encoding m.ownPurpose own = .ok ours) :
    m.take source (.confirm own known) =
      .ok ⟨m.confirmed, source, ⟨[.mac ours], m.judgePending known⟩⟩ := by
  simp only [take, confirm_eq state agreed written computed, Except.map]

/-- Both sides spell out the same purpose: who started comes first. -/
theorem shortCodePurpose_mirror (a b : Identity) (transaction : Transaction) (aKey bKey : String) :
    shortCodePurpose ⟨b, a, transaction⟩ false bKey aKey =
      shortCodePurpose ⟨a, b, transaction⟩ true aKey bKey := rfl

/-- What a machine that shows its short code needs to send and check MACs. -/
structure Compares (m : Machine) (secret : SharedSecret) (encoding : MacEncoding) : Prop where
  state : m.state.isComparison = true
  secret : m.secret = some secret
  encoding : m.macEncoding? = some encoding
  pendingMac : m.pendingMac = none

theorem state_reveal (m : Machine) (secret : SharedSecret) (code : ShortCode) :
    (m.reveal secret code).state = .comparison code.decimals code.emojiIndices := rfl

/-- A machine that shows its short code under an agreement is ready to compare. -/
theorem compares_reveal {agreement : Agreement} {encoding : MacEncoding} {secret : SharedSecret}
    {code : ShortCode} (agreed : m.agreement = some agreement)
    (written : agreement.macEncoding? = some encoding) (pending : m.pendingMac = none) :
    (m.reveal secret code).Compares secret encoding where
  state := rfl
  secret := rfl
  encoding := by
    show m.agreement.bind _ = _
    rw [agreed]
    exact written
  pendingMac := pending

namespace Compares

variable {secret : SharedSecret} {encoding : MacEncoding} {own known verified : List VerifiableKey}
  {ours theirs : MacContent}

/-- Confirmed first: our MACs go out, and theirs are still to come. -/
theorem take_confirm_first (h : m.Compares secret encoding)
    (computed : macContent secret encoding m.ownPurpose own = .ok ours) :
    m.take source (.confirm own known) = .ok ⟨m.confirmed, source, ⟨[.mac ours], .proceed⟩⟩ := by
  rw [take_confirm h.state h.secret h.encoding computed, judgePending, h.pendingMac]

/-- Taken first: their MACs wait for the confirmation. -/
theorem take_mac_first (h : m.Compares secret encoding) :
    m.take source (.mac theirs known) =
      .ok ⟨{ m with pendingMac := some theirs }, source, .idle⟩ := by
  simp [take, handleMac, h.state, h.pendingMac]

/-- The verdict on MACs does not depend on what else the machine waits for. -/
theorem judge_eq (m' : Machine) (h : m.Compares secret encoding) (context : m'.context = m.context)
    (same : m'.secret = m.secret) (agreement : m'.agreement = m.agreement)
    (checked : checkMac secret encoding m.theirPurpose theirs known = .ok verified) :
    m'.judge theirs known = .verified verified := by
  have written : m'.macEncoding? = some encoding := by
    rw [← h.encoding, macEncoding?, agreement, macEncoding?]
  have purpose : m'.theirPurpose = m.theirPurpose := by
    rw [theirPurpose, context, theirPurpose]
  simp [judge, same, h.secret, written, purpose, checked]

/-- Taken after the confirmation: their MACs are checked. -/
theorem take_mac_confirmed (h : m.Compares secret encoding)
    (checked : checkMac secret encoding m.theirPurpose theirs known = .ok verified) :
    m.confirmed.take source (.mac theirs known) =
      .ok ⟨m.confirmed, source, ⟨[], .verified verified⟩⟩ := by
  have judged := judge_eq m.confirmed h rfl rfl rfl checked
  have state : m.confirmed.state = .waitForMacs := rfl
  simp [take, handleMac, state, State.isComparison, judged]

/-- Confirmed after their MACs came: ours go out and theirs are checked. -/
theorem take_confirm_pending (h : m.Compares secret encoding)
    (computed : macContent secret encoding m.ownPurpose own = .ok ours)
    (checked : checkMac secret encoding m.theirPurpose theirs known = .ok verified) :
    { m with pendingMac := some theirs }.take source (.confirm own known) =
      .ok ⟨m.confirmed, source, ⟨[.mac ours], .verified verified⟩⟩ := by
  have judged := judge_eq { m with pendingMac := some theirs } h rfl rfl rfl checked
  rw [← judged]
  exact take_confirm (m := { m with pendingMac := some theirs }) h.state h.secret h.encoding
    computed

end Compares

end Machine

/-! ## The two sides -/

/-- One side of an exchange. -/
structure Side where
  machine : Machine
  source : KeySource
  /-- The steps that are under way to this side, the oldest first. -/
  inbox : List Step
  /-- The keys of this side. -/
  own : List VerifiableKey
  /-- The keys that are known of the other side. -/
  known : List VerifiableKey
  /-- What the last input meant. -/
  verdict : Verdict

namespace Side

/-- The input that a step of the other side is. -/
def inputOf? (s : Side) : Step → Option Input
  | .accept content => some (.accepted content)
  | .key content => some (.key content)
  | .mac content => some (.mac content s.known)
  | _ => none

/-- The side after an input that is not refused, and what it sends. -/
def feed? (s : Side) (input : Input) : Option (Side × List Step) :=
  match s.machine.take s.source input with
  | .ok d =>
    some ({ s with machine := d.machine, source := d.source, verdict := d.turn.verdict },
      d.turn.outbound)
  | .error _ => none

/-- Takes the oldest step that is under way. -/
def receive? (s : Side) : Option (Side × List Step) :=
  match s.inbox with
  | [] => none
  | step :: rest => (s.inputOf? step).bind { s with inbox := rest }.feed?

/-- The user confirms the short code. -/
def confirm? (s : Side) : Option (Side × List Step) := s.feed? (.confirm s.own s.known)

/-- Steps are on their way to a side. -/
def post (s : Side) (steps : List Step) : Side := { s with inbox := s.inbox ++ steps }

/-- The side after a turn. -/
def turned (s : Side) (d : Machine.Drawn) : Side :=
  { s with machine := d.machine, source := d.source, verdict := d.turn.verdict }

variable {s : Side} {d : Machine.Drawn}

theorem feed?_of_take {input : Input} (h : s.machine.take s.source input = .ok d) :
    s.feed? input = some (s.turned d, d.turn.outbound) := by
  simp [feed?, h, turned]

theorem receive?_of_take (step : Step) (rest : List Step) {input : Input}
    (inbox : s.inbox = step :: rest) (meaning : s.inputOf? step = some input)
    (h : s.machine.take s.source input = .ok d) :
    s.receive? = some ({ s with inbox := rest }.turned d, d.turn.outbound) := by
  simp [receive?, inbox, meaning, feed?, h, turned]

@[simp] theorem post_nil (s : Side) : s.post [] = s := by
  simp [post]

/-- A confirmation does not depend on what is under way. -/
theorem confirm?_post (s : Side) (steps : List Step) :
    (s.post steps).confirm? = s.confirm?.map fun r => (r.1.post steps, r.2) := by
  unfold confirm? feed? post
  simp only
  split <;> rfl

/-! ### The end of a run on one side -/

/-- The side that confirmed and waits for MACs. -/
def sent (s : Side) : Side := { s with machine := s.machine.confirmed, verdict := .proceed }

/-- The side that holds MACs until its user confirms. -/
def holding (s : Side) (theirs : MacContent) : Side :=
  { s with machine := { s.machine with pendingMac := some theirs }, verdict := .proceed }

/-- The side that verified the other one. -/
def ended (s : Side) (verified : List VerifiableKey) : Side :=
  { s with machine := s.machine.confirmed, verdict := .verified verified }

/-- What a side that shows its short code sends and verifies once both users confirmed. -/
structure Closes (s : Side) (secret : SharedSecret) (encoding : MacEncoding)
    (ours theirs : MacContent) (verified : List VerifiableKey) : Prop where
  inbox : s.inbox = []
  compares : s.machine.Compares secret encoding
  computed : macContent secret encoding s.machine.ownPurpose s.own = .ok ours
  checked : checkMac secret encoding s.machine.theirPurpose theirs s.known = .ok verified

namespace Closes

variable {secret : SharedSecret} {encoding : MacEncoding} {ours theirs : MacContent}
  {verified : List VerifiableKey}

theorem confirm?_first (h : s.Closes secret encoding ours theirs verified) :
    s.confirm? = some (s.sent, [.mac ours]) :=
  feed?_of_take (h.compares.take_confirm_first h.computed)

theorem receive?_first (h : s.Closes secret encoding ours theirs verified) :
    (s.post [.mac theirs]).receive? = some (s.holding theirs, []) := by
  rw [receive?_of_take (s := s.post [.mac theirs]) (.mac theirs) [] (by simp [post, h.inbox]) rfl
    h.compares.take_mac_first]
  simp [turned, post, holding, Turn.idle, h.inbox]

theorem receive?_sent (h : s.Closes secret encoding ours theirs verified) :
    (s.sent.post [.mac theirs]).receive? = some (s.ended verified, []) := by
  rw [receive?_of_take (s := s.sent.post [.mac theirs]) (.mac theirs) []
    (by simp [post, sent, h.inbox]) rfl (h.compares.take_mac_confirmed h.checked)]
  simp [turned, post, sent, ended, h.inbox]

theorem confirm?_holding (h : s.Closes secret encoding ours theirs verified) :
    (s.holding theirs).confirm? = some (s.ended verified, [.mac ours]) :=
  feed?_of_take (s := s.holding theirs) (h.compares.take_confirm_pending h.computed h.checked)

end Closes

end Side

/-- Both sides of an exchange. -/
structure Duet where
  starter : Side
  accepter : Side

namespace Duet

/-- What can happen next in an exchange. -/
inductive Act where
  /-- The user of the side that answers accepts the start. -/
  | accept
  | starterTakes
  | accepterTakes
  | starterConfirms
  | accepterConfirms
  deriving DecidableEq

/-- The starter changed and sent steps. -/
def fromStarter (d : Duet) (r : Side × List Step) : Duet := ⟨r.1, d.accepter.post r.2⟩

/-- The accepter changed and sent steps. -/
def fromAccepter (d : Duet) (r : Side × List Step) : Duet := ⟨d.starter.post r.2, r.1⟩

/-- The exchange after an act, if it can happen. -/
def step? (d : Duet) : Act → Option Duet
  | .accept => (d.accepter.feed? .accept).map d.fromAccepter
  | .starterTakes => d.starter.receive?.map d.fromStarter
  | .accepterTakes => d.accepter.receive?.map d.fromAccepter
  | .starterConfirms => d.starter.confirm?.map d.fromStarter
  | .accepterConfirms => d.accepter.confirm?.map d.fromAccepter

/-- The exchange after several acts. -/
def run? (d : Duet) (acts : List Act) : Option Duet := acts.foldlM step? d

/-- The acts that lead from an offered start to the short code on both sides. -/
def opening : List Act := [.accept, .starterTakes, .accepterTakes, .starterTakes]

/-- The acts that are left then. -/
def closing : List Act := [.starterConfirms, .accepterConfirms, .starterTakes, .accepterTakes]

/-- Whether the acts that are left come in an order in which each MAC is taken after it is sent. -/
structure IsClosing (order : List Act) : Prop where
  perm : order.Perm closing
  starterFirst : [.starterConfirms, .accepterTakes].Sublist order
  accepterFirst : [.accepterConfirms, .starterTakes].Sublist order

/-- The orders in which an exchange can end. -/
theorem closing_orders {order : List Act} (h : IsClosing order) :
    order ∈ [[.starterConfirms, .accepterTakes, .accepterConfirms, .starterTakes],
      [.starterConfirms, .accepterConfirms, .accepterTakes, .starterTakes],
      [.starterConfirms, .accepterConfirms, .starterTakes, .accepterTakes],
      [.accepterConfirms, .starterTakes, .starterConfirms, .accepterTakes],
      [.accepterConfirms, .starterConfirms, .starterTakes, .accepterTakes],
      [.accepterConfirms, .starterConfirms, .accepterTakes, .starterTakes]] := by
  obtain ⟨perm, starterFirst, accepterFirst⟩ := h
  revert starterFirst accepterFirst
  exact (by decide : ∀ order ∈ closing.permutations', [.starterConfirms, .accepterTakes].Sublist
    order → [.accepterConfirms, .starterTakes].Sublist order → order ∈ _) order
    (List.mem_permutations'.2 perm)

/-! ## The opening -/

variable {a b : Identity} {transaction : Transaction} {aSettings bSettings : Settings}
  {aGeneration bGeneration : Nat} {aSource aRest bSource bRest : KeySource}
  {aPair bPair : KeyPair} {agreement : Agreement} {encoding : MacEncoding}
  {secret : SharedSecret} {aOwn aKnown bOwn bKnown : List VerifiableKey}

/-- The exchange of two machines before anything is sent. -/
def begin (starter accepter : Machine) (aSource bSource : KeySource)
    (aOwn aKnown bOwn bKnown : List VerifiableKey) : Duet :=
  ⟨⟨starter, aSource, [], aOwn, aKnown, .proceed⟩, ⟨accepter, bSource, [], bOwn, bKnown, .proceed⟩⟩

/-- The two machines show the same short code, and nothing is under way. -/
structure Shows (a b : Identity) (transaction : Transaction) (secret : SharedSecret)
    (encoding : MacEncoding) (d : Duet) : Prop where
  state : d.starter.machine.state = d.accepter.machine.state
  starter : d.starter.machine.Compares secret encoding
  accepter : d.accepter.machine.Compares secret encoding
  starterContext : d.starter.machine.context = ⟨a, b, transaction⟩
  accepterContext : d.accepter.machine.context = ⟨b, a, transaction⟩
  starterInbox : d.starter.inbox = []
  accepterInbox : d.accepter.inbox = []

/-- The opening, turn by turn. -/
theorem run?_of_turns {a₀ a₁ a₂ b₀ b₁ b₂ : Machine} {accept : AcceptContent}
    {aKey bKey : KeyContent}
    (first : b₀.take bSource .accept = .ok ⟨b₁, bRest, .send (.accept accept)⟩)
    (second : a₀.take aSource (.accepted accept) = .ok ⟨a₁, aRest, .send (.key aKey)⟩)
    (third : b₁.take bRest (.key aKey) = .ok ⟨b₂, bRest, .send (.key bKey)⟩)
    (fourth : a₁.take aRest (.key bKey) = .ok ⟨a₂, aRest, .idle⟩) :
    (begin a₀ b₀ aSource bSource aOwn aKnown bOwn bKnown).run? opening =
      some (begin a₂ b₂ aRest bRest aOwn aKnown bOwn bKnown) := by
  let d₀ := begin a₀ b₀ aSource bSource aOwn aKnown bOwn bKnown
  let d₁ : Duet := ⟨⟨a₀, aSource, [.accept accept], aOwn, aKnown, .proceed⟩,
    ⟨b₁, bRest, [], bOwn, bKnown, .proceed⟩⟩
  let d₂ : Duet := ⟨⟨a₁, aRest, [], aOwn, aKnown, .proceed⟩,
    ⟨b₁, bRest, [.key aKey], bOwn, bKnown, .proceed⟩⟩
  let d₃ : Duet := ⟨⟨a₁, aRest, [.key bKey], aOwn, aKnown, .proceed⟩,
    ⟨b₂, bRest, [], bOwn, bKnown, .proceed⟩⟩
  let d₄ := begin a₂ b₂ aRest bRest aOwn aKnown bOwn bKnown
  have one : d₀.step? .accept = some d₁ :=
    congrArg (Option.map d₀.fromAccepter) (Side.feed?_of_take (s := d₀.accepter) first)
  have two : d₁.step? .starterTakes = some d₂ :=
    congrArg (Option.map d₁.fromStarter)
      (Side.receive?_of_take (s := d₁.starter) _ _ rfl rfl second)
  have three : d₂.step? .accepterTakes = some d₃ :=
    congrArg (Option.map d₂.fromAccepter)
      (Side.receive?_of_take (s := d₂.accepter) _ _ rfl rfl third)
  have four : d₃.step? .starterTakes = some d₄ :=
    congrArg (Option.map d₃.fromStarter)
      (Side.receive?_of_take (s := d₃.starter) _ _ rfl rfl fourth)
  show d₀.run? opening = some d₄
  simp only [run?, opening, List.foldlM_cons, List.foldlM_nil, one, two, three, four,
    Option.bind_eq_bind, Option.bind_some, Option.pure_def]

variable (a b transaction aGeneration bGeneration aOwn aKnown bOwn bKnown) in
/-- Start, acceptance and the two keys bring both sides to the same short code. -/
theorem run?_opening
    (agrees : bSettings.negotiate (aSettings.startContent a.device) = some agreement)
    (written : agreement.macEncoding? = some encoding) (aDraws : aSource.draw = (.ok aPair, aRest))
    (bDraws : bSource.draw = (.ok bPair, bRest))
    (aExchange : aPair.exchange bPair.publicKey = .ok secret)
    (bExchange : bPair.exchange aPair.publicKey = .ok secret) :
    ∃ d, (begin (.ownStart aGeneration ⟨a, b, transaction⟩ aSettings)
        (.init bGeneration ⟨b, a, transaction⟩ bSettings false (aSettings.startContent a.device))
        aSource bSource aOwn aKnown bOwn bKnown).run? opening = some d ∧
      Shows a b transaction secret encoding d ∧ d.starter.own = aOwn ∧ d.starter.known = aKnown ∧
      d.accepter.own = bOwn ∧ d.accepter.known = bKnown := by
  obtain ⟨code, shown, -⟩ := secret.shortCode_ok
    (Machine.shortCodePurpose ⟨a, b, transaction⟩ true aPair.publicKey bPair.publicKey)
  have mirrored := shown
  rw [← Machine.shortCodePurpose_mirror] at mirrored
  let start := aSettings.startContent a.device
  let starter : Machine := .ownStart aGeneration ⟨a, b, transaction⟩ aSettings
  let accepter : Machine := .init bGeneration ⟨b, a, transaction⟩ bSettings false start
  let content := agreement.acceptContent (commitment bPair.publicKey starter.canonicalStart)
  -- The four turns, each by the machine that it finds.
  have first : accepter.take bSource .accept =
      .ok ⟨accepter.accepting agreement bPair, bRest, .send (.accept content)⟩ :=
    Machine.take_accept rfl agrees bDraws
  have second : starter.take aSource (.accepted content) =
      .ok ⟨(starter.agreed agreement content).revealing aPair, aRest,
        .send (.key ⟨aPair.publicKey⟩)⟩ :=
    Machine.take_accepted rfl (Settings.accepted_acceptContent agrees _) aDraws
  have third : (accepter.accepting agreement bPair).take bRest (.key ⟨aPair.publicKey⟩) =
      .ok ⟨{ accepter.accepting agreement bPair with state := .waitForKeys false }.reveal secret
        code, bRest, .send (.key ⟨bPair.publicKey⟩)⟩ :=
    Machine.take_key_of_accepter rfl rfl rfl (Machine.derive_eq rfl bExchange mirrored)
  have fourth : ((starter.agreed agreement content).revealing aPair).take aRest
      (.key ⟨bPair.publicKey⟩) =
      .ok ⟨((starter.agreed agreement content).revealing aPair).reveal secret code, aRest,
        .idle⟩ :=
    Machine.take_key_of_starter rfl rfl rfl (verifyCommitment_commitment _ _)
      (Machine.derive_eq rfl aExchange shown)
  refine ⟨_, run?_of_turns first second third fourth, ?_, rfl, rfl, rfl, rfl⟩
  exact {
    state := (Machine.state_reveal _ _ _).trans (Machine.state_reveal _ _ _).symm
    starter := Machine.compares_reveal rfl written rfl
    accepter := Machine.compares_reveal rfl written rfl
    starterContext := rfl
    accepterContext := rfl
    starterInbox := rfl
    accepterInbox := rfl }

/-! ## The end -/

/-- In whatever order the acts that are left happen, both sides verify the other. -/
theorem run?_closing {d : Duet} {aMac bMac : MacContent} {aVerified bVerified : List VerifiableKey}
    (starter : d.starter.Closes secret encoding aMac bMac bVerified)
    (accepter : d.accepter.Closes secret encoding bMac aMac aVerified) {order : List Act}
    (h : IsClosing order) :
    d.run? order = some ⟨d.starter.ended bVerified, d.accepter.ended aVerified⟩ := by
  have orders := closing_orders h
  simp only [List.mem_cons, List.not_mem_nil, or_false] at orders
  rcases orders with rfl | rfl | rfl | rfl | rfl | rfl
  all_goals
    simp [run?, step?, fromStarter, fromAccepter, starter.confirm?_first, starter.receive?_first,
      starter.receive?_sent, starter.confirm?_holding, accepter.confirm?_first,
      accepter.receive?_first, accepter.receive?_sent, accepter.confirm?_holding,
      Side.confirm?_post]

/-- What one side authenticates, the other one verifies. -/
theorem closes_of_shows {d : Duet} (shows : Shows a b transaction secret encoding d)
    {aMac bMac : MacContent} {aVerified bVerified : List VerifiableKey}
    (aComputed : macContent secret encoding (macPurpose a b transaction.id) d.starter.own =
      .ok aMac)
    (bComputed : macContent secret encoding (macPurpose b a transaction.id) d.accepter.own =
      .ok bMac)
    (aChecked : checkMac secret encoding (macPurpose a b transaction.id) aMac d.accepter.known =
      .ok aVerified)
    (bChecked : checkMac secret encoding (macPurpose b a transaction.id) bMac d.starter.known =
      .ok bVerified) :
    d.starter.Closes secret encoding aMac bMac bVerified ∧
      d.accepter.Closes secret encoding bMac aMac aVerified := by
  refine ⟨⟨shows.starterInbox, shows.starter, ?_, ?_⟩,
    ⟨shows.accepterInbox, shows.accepter, ?_, ?_⟩⟩
  · rw [Machine.ownPurpose, shows.starterContext]
    exact aComputed
  · rw [Machine.theirPurpose, shows.starterContext]
    exact bChecked
  · rw [Machine.ownPurpose, shows.accepterContext]
    exact bComputed
  · rw [Machine.theirPurpose, shows.accepterContext]
    exact aChecked

variable (a b transaction aGeneration bGeneration) in
/-- **Two honest sides verify each other.** A start that the other side has algorithms for, an
acceptance and two keys that agree on a secret bring both sides to the same short code. From there
on, in whatever order the users confirm and the MACs arrive, each side verifies exactly the keys
that it knows among the ones the other authenticated, in the order of their ids. -/
theorem exchange_verifies
    (agrees : bSettings.negotiate (aSettings.startContent a.device) = some agreement)
    (written : agreement.macEncoding? = some encoding) (aDraws : aSource.draw = (.ok aPair, aRest))
    (bDraws : bSource.draw = (.ok bPair, bRest))
    (aExchange : aPair.exchange bPair.publicKey = .ok secret)
    (bExchange : bPair.exchange aPair.publicKey = .ok secret)
    (aAcquainted : Acquainted bOwn aKnown) (bAcquainted : Acquainted aOwn bKnown) :
    ∃ accepter, Machine.theirStart bGeneration ⟨b, a, transaction⟩ bSettings
        (Machine.ownStart aGeneration ⟨a, b, transaction⟩ aSettings).start = .ok accepter ∧
      ∃ d, (begin (.ownStart aGeneration ⟨a, b, transaction⟩ aSettings) accepter aSource bSource
          aOwn aKnown bOwn bKnown).run? opening = some d ∧
        (∃ decimals emoji, d.starter.machine.state = .comparison decimals emoji ∧
          d.accepter.machine.state = .comparison decimals emoji) ∧
        ∃ aVerified bVerified, Recognised aOwn bKnown aVerified ∧
          Recognised bOwn aKnown bVerified ∧
          ∀ order, IsClosing order → ∃ d', d.run? order = some d' ∧
            d'.starter.verdict = .verified bVerified ∧
            d'.accepter.verdict = .verified aVerified := by
  obtain ⟨d, opened, shows, rfl, rfl, rfl, rfl⟩ := run?_opening a b transaction aGeneration
    bGeneration aOwn aKnown bOwn bKnown agrees written aDraws bDraws aExchange bExchange
  obtain ⟨aMac, aVerified, aComputed, aChecked, aRecognised⟩ := checkMac_macContent
    secret encoding (macPurpose a b transaction.id) bAcquainted
  obtain ⟨bMac, bVerified, bComputed, bChecked, bRecognised⟩ := checkMac_macContent
    secret encoding (macPurpose b a transaction.id) aAcquainted
  obtain ⟨starter, accepter⟩ := closes_of_shows shows aComputed bComputed aChecked bChecked
  have made : Machine.theirStart bGeneration ⟨b, a, transaction⟩ bSettings
      (aSettings.startContent a.device) = .ok (.init bGeneration ⟨b, a, transaction⟩ bSettings
        false (aSettings.startContent a.device)) := by
    rw [Machine.theirStart, if_pos (by rw [agrees]; rfl)]
  refine ⟨_, made, d, opened, ?_, aVerified, bVerified, aRecognised, bRecognised, ?_⟩
  · cases eq : d.starter.machine.state with
    | comparison decimals emoji => exact ⟨decimals, emoji, rfl, shows.state ▸ eq⟩
    | _ => simpa [eq, State.isComparison] using shows.starter.state
  · intro order closing
    exact ⟨_, run?_closing starter accepter closing, rfl, rfl⟩

/-! ## Alice and Bob -/

/-- The keys of Alice's device, the last of which only she knows. -/
def aliceKeys : List VerifiableKey :=
  [.ofDevice "ALICE" "alice device", .ofMaster "alice master", .ofDevice "NEW" "alice new"]

/-- What Bob knows of Alice, in another order and with a device that she lost. -/
def aliceKnown : List VerifiableKey :=
  [.ofMaster "alice master", .ofDevice "OLD" "alice old", .ofDevice "ALICE" "alice device"]

/-- The key of Bob's device, which Alice knows. -/
def bobKeys : List VerifiableKey := [.ofDevice "BOB" "bob device"]

/-- What the default settings agree on with each other. -/
def sampleAgreement : Agreement := ⟨.sha256, .curve25519, .current, Settings.default.sasMethods⟩

/-- The secret of the two sample key pairs. -/
def sampleSecret : SharedSecret :=
  ⟨X25519.exchange (sampleKeyPair 5).secret.toList
    (X25519.publicKey (sampleKeyPair 6).secret.toList)⟩

/-- Alice and Bob verify each other with the default settings. -/
theorem exchange_verifies_sample :
    (Settings.default.negotiate (Settings.default.startContent "ALICE") = some sampleAgreement ∧
      (sampleKeyPair 5).exchange (sampleKeyPair 6).publicKey = .ok sampleSecret ∧
      (sampleKeyPair 6).exchange (sampleKeyPair 5).publicKey = .ok sampleSecret ∧
      Acquainted bobKeys bobKeys ∧ Acquainted aliceKeys aliceKnown) ∧
    ∃ accepter, Machine.theirStart 1 sampleContext Settings.default
        (Machine.ownStart 1 ⟨sampleContext.their, sampleContext.own, .direct "tx"⟩ .default).start =
          .ok accepter ∧
      ∃ d, (begin (.ownStart 1 ⟨sampleContext.their, sampleContext.own, .direct "tx"⟩ .default)
          accepter ⟨[.ok (sampleKeyPair 5)]⟩ ⟨[.ok (sampleKeyPair 6)]⟩ aliceKeys bobKeys bobKeys
          aliceKnown).run? opening = some d ∧
        (∃ decimals emoji, d.starter.machine.state = .comparison decimals emoji ∧
          d.accepter.machine.state = .comparison decimals emoji) ∧
        ∃ aVerified bVerified, Recognised aliceKeys aliceKnown aVerified ∧
          Recognised bobKeys bobKeys bVerified ∧
          ∀ order, IsClosing order → ∃ d', d.run? order = some d' ∧
            d'.starter.verdict = .verified bVerified ∧
            d'.accepter.verdict = .verified aVerified := by
  have agrees : Settings.default.negotiate (Settings.default.startContent "ALICE") =
      some sampleAgreement := by decide +kernel
  have aExchange : (sampleKeyPair 5).exchange (sampleKeyPair 6).publicKey = .ok sampleSecret := by
    decide +kernel
  have bExchange : (sampleKeyPair 6).exchange (sampleKeyPair 5).publicKey = .ok sampleSecret := by
    decide +kernel
  have aAcquainted : Acquainted bobKeys bobKeys :=
    ⟨by decide +kernel, by decide +kernel, by decide +kernel⟩
  have bAcquainted : Acquainted aliceKeys aliceKnown :=
    ⟨by decide +kernel, by decide +kernel, by decide +kernel⟩
  exact ⟨⟨agrees, aExchange, bExchange, aAcquainted, bAcquainted⟩,
    exchange_verifies sampleContext.their sampleContext.own (.direct "tx") 1 1 agrees rfl rfl rfl
      aExchange bExchange aAcquainted bAcquainted⟩

end Duet

end DeviceVerification.Sas
