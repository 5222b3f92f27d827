import DeviceVerification.Proofs.Verification.Choice
import DeviceVerification.Proofs.Verification.Speech
import DeviceVerification.Service.Requests

/-!
# The device of a direct verification

Once the device of the counterpart is known, neither it nor the devices that steps go to are ever
changed (`Pinned.perform`). The device is fixed by the first request, ready or start that is heard,
and it is the one that this message names. Where our steps go, and what is heard later, is up to the
device that sent a message: the two agree where a message names the device that sent it
(`device_is_fixed`), and part ways where it does not (`device_misnamed`).
-/

namespace DeviceVerification.Verification

variable {v : Verification} {device : String} {route : Route}

/-! ## A device that is known -/

/-- The device of the counterpart is known, our steps take this route, and our request, if it was
ours, is answered. -/
structure Pinned (v : Verification) (device : String) (route : Route) : Prop where
  known : v.theirDevice = some device
  route : v.route = route
  answered : v.state ≠ .ownRequest

/-- Nothing changes the device any more. -/
theorem Pinned.perform (h : v.Pinned device route) (a : Answers) (op : Operation)
    (source : KeySource) : (perform a op v source).verification.Pinned device route := by
  cases pins_perform a op v source with
  | keeps device route =>
    refine ⟨device.trans h.known, route.trans h.route, ?_⟩
    intro state
    exact h.answered ((speaks_perform a op v source).ownRequest state)
  | fixes _ _ _ unanswered =>
    rcases unanswered with unknown | state
    · cases h.known.symm.trans unknown
    · exact absurd state h.answered

/-! ## Direct verifications -/

/-- Direct messages tell the device that sent them. -/
def Operation.IsDirect : Operation → Prop
  | .receive sender _ => sender.isSome = true
  | _ => True

/-- Who asked for a direct verification. -/
inductive Asker where
  /-- We asked some devices. -/
  | us (devices : List String)
  /-- The counterpart asked, from a device. -/
  | them (senderDevice : String)

namespace Asker

/-- The direct verification that a service begins. -/
def verification (asker : Asker) (s : Service) (request : RequestContent)
    (theirUser transactionId : String) : Verification :=
  match asker with
  | .us devices => s.directVerification request true theirUser transactionId devices
  | .them senderDevice =>
    s.directVerification request false theirUser transactionId [senderDevice]

/-- Where our steps go once a device is fixed, given the device that sent the message that fixed it
and the one that this message names. -/
def addressee : Asker → (sent named : String) → String
  | .us _, _, named => named
  | .them _, sent, _ => sent

end Asker

/-- The message that fixed the device of the counterpart in a run: the request, or the first step
that was heard and names a device. It was sent by one device and names one. -/
inductive FixedBy (asker : Asker) (request : RequestContent) (r : Run) (sent named : String) :
    Prop where
  | request (asked : asker = .them sent) (names : request.fromDevice = named)
  | step {e : Record} {step : Step} (mem : e ∈ r.log) (heard : e.op = .receive (some sent) step)
      (names : step.fromDevice? = some named) (before : e.before.theirDevice = none)
      (after : e.outcome.verification.theirDevice = some named)

variable {asker : Asker} {request : RequestContent} {r : Run} {sent named : String}

theorem FixedBy.extend (h : FixedBy asker request r sent named) (op : Operation) (a : Answers)
    (outcome : Outcome) : FixedBy asker request (r.extend op a outcome) sent named := by
  cases h with
  | request asked names => exact .request asked names
  | step mem heard names before after =>
    exact .step (List.mem_append_left _ mem) heard names before after

/-- How far a direct verification has come to know the device of the counterpart. -/
inductive Knows (asker : Asker) (request : RequestContent) (r : Run) : Prop where
  | unknown {devices : List String} (asked : asker = .us devices)
      (unknown : r.verification.theirDevice = none)
      (route : r.verification.route = .devices devices)
  | known {sent named : String} (fixed : FixedBy asker request r sent named)
      (pinned : r.verification.Pinned named (.devices [asker.addressee sent named]))

theorem knows_begin (asker : Asker) (s : Service) (request : RequestContent)
    (theirUser transactionId : String) (source : KeySource) :
    Knows asker request
      (Run.begin (asker.verification s request theirUser transactionId) source) := by
  cases asker with
  | us devices => exact .unknown rfl rfl rfl
  | them senderDevice => exact .known (.request rfl rfl) ⟨rfl, rfl, nofun⟩

theorem Knows.step (h : Knows asker request r) {event : Operation × Answers}
    (direct : event.1.IsDirect) : Knows asker request (r.step event) := by
  obtain ⟨op, a⟩ := event
  cases h with
  | known fixed pinned => exact .known (fixed.extend op a _) (pinned.perform a op r.source)
  | unknown asked unknown route =>
    cases pins_perform a op r.verification r.source with
    | keeps device same => exact .unknown asked (device.trans unknown) (same.trans route)
    | @fixes sender step device heard near named unanswered known narrowed answered =>
      subst heard
      obtain ⟨sent, rfl⟩ := Option.isSome_iff_exists.1 direct
      have fixed : FixedBy asker request (r.step (.receive (some sent) step, a)) sent device :=
        .step (List.mem_append_right _ (List.mem_singleton_self _)) rfl named unknown known
      refine .known fixed ⟨known, ?_, answered⟩
      rw [asked]
      rw [route] at narrowed
      exact narrowed

theorem Knows.steps (h : Knows asker request r) {events : List (Operation × Answers)}
    (direct : ∀ e ∈ events, e.1.IsDirect) : Knows asker request (r.steps events) := by
  unfold Run.steps
  induction events generalizing r with
  | nil => exact h
  | cons event events ih =>
    exact ih (h.step (direct event List.mem_cons_self)) fun e mem =>
      direct e (List.mem_cons_of_mem _ mem)

/-- **The device of a direct verification.** Whatever happens to a direct verification, a device of
the counterpart that it knows was fixed by a request of the counterpart, or by a step of theirs at a
time when none was known, and it is the device that this message names. Our steps go to this device
alone, or, if the counterpart asked, to the one that sent the request; so where the message names
the device that sent it, this one is the device of the counterpart, and our steps go to it alone. -/
theorem device_is_fixed (asker : Asker) (s : Service) (request : RequestContent)
    (theirUser transactionId : String) (source : KeySource)
    {events : List (Operation × Answers)} (direct : ∀ e ∈ events, e.1.IsDirect)
    (known : ((Run.begin (asker.verification s request theirUser transactionId)
      source).steps events).verification.theirDevice = some device) :
    let r := (Run.begin (asker.verification s request theirUser transactionId) source).steps events
    ∃ sent, FixedBy asker request r sent device ∧
      r.verification.route = .devices [asker.addressee sent device] ∧
      (device = sent → r.verification.route = .devices [device]) := by
  intro r
  have knows : Knows asker request r :=
    (knows_begin asker s request theirUser transactionId source).steps direct
  cases knows with
  | unknown _ unknown => cases known.symm.trans unknown
  | @known sent named fixed pinned =>
    obtain rfl : device = named := Option.some.inj (known.symm.trans pinned.known)
    refine ⟨sent, fixed, pinned.route, ?_⟩
    rintro rfl
    rw [pinned.route]
    cases asker <;> rfl

/-! ### Answers under another name -/

/-- A service of Bob's device. -/
def sampleService : Service := .init Sas.sampleContext.own .default .default

/-- A device of the counterpart answers our request and names a device. -/
def sampleAnswered (sent named : String) : Run :=
  (Run.begin (Asker.verification (.us ["ALICE", "PHONE"]) sampleService ⟨"BOB", [.sas], 0⟩
    "@alice:x" "tx") ⟨[]⟩).steps [(.receive (some sent) (.ready ⟨named, [.sas]⟩), sampleAnswers)]

/-- Alice's device answers under its own name, and our steps go to it alone. -/
theorem device_is_fixed_sample :
    (sampleAnswered "ALICE" "ALICE").verification.theirDevice = some "ALICE" ∧
      ∃ sent, FixedBy (.us ["ALICE", "PHONE"]) ⟨"BOB", [.sas], 0⟩ (sampleAnswered "ALICE" "ALICE")
          sent "ALICE" ∧
        (sampleAnswered "ALICE" "ALICE").verification.route = .devices ["ALICE"] ∧
        ("ALICE" = sent →
          (sampleAnswered "ALICE" "ALICE").verification.route = .devices ["ALICE"]) := by
  have known : (sampleAnswered "ALICE" "ALICE").verification.theirDevice = some "ALICE" := by
    decide +kernel
  refine ⟨known, device_is_fixed (.us ["ALICE", "PHONE"]) sampleService ⟨"BOB", [.sas], 0⟩
    "@alice:x" "tx" ⟨[]⟩ ?_ known⟩
  intro e mem
  obtain rfl := List.mem_singleton.1 mem
  rfl

/-- Alice's device asks us and names a device. -/
def sampleRequested (named : String) : Verification :=
  Asker.verification (.them "ALICE") sampleService ⟨named, [.sas], 0⟩ "@alice:x" "tx"

/-- A request that Alice's device sends under the name of her phone fixes the phone, while our steps
go to the device. An answer that the device sends under the name of the phone has the device
dismissed, and the phone, which never answered, is kept. -/
theorem device_misnamed :
    ((sampleRequested "PHONE").theirDevice = some "PHONE" ∧
      (sampleRequested "PHONE").route = .devices ["ALICE"]) ∧
    (sampleAnswered "ALICE" "PHONE").verification.theirDevice = some "PHONE" ∧
      (sampleAnswered "ALICE" "PHONE").verification.route = .devices ["PHONE"] ∧
      (sampleAnswered "ALICE" "PHONE").effects = [.dismiss ["ALICE"] none] := by
  decide +kernel

end DeviceVerification.Verification
