import Mathlib.Logic.Function.Basic
import DeviceVerification.Proofs.Peers.Steps
import DeviceVerification.Proofs.Sas.Exchange
import DeviceVerification.Proofs.Verification.Turn

/-!
# Two sides that verify each other

A `Meeting` is a request between two devices, each with a verification of its own. The steps that
one side hands over reach the other one in their order, none is lost, and in between either user may
do anything at any time. `concludes_together` says that neither side is ever cancelled for an
unexpected message, and that no side is done unless both have recorded their trust.
-/

namespace DeviceVerification

/-- Of two devices, exactly one comes before the other. -/
theorem Identity.before_swap {a b : Identity} (h : a ≠ b) : b.before a = !a.before b := by
  have swap : b.order a = (a.order b).swap := by
    rw [order, order, Ordering.swap_then, ← Std.OrientedCmp.eq_swap, ← Std.OrientedCmp.eq_swap]
  have ne : a.order b ≠ .eq := by
    intro same
    obtain ⟨user, device⟩ := Ordering.then_eq_eq.1 same
    obtain ⟨aUser, aDevice⟩ := a
    obtain ⟨bUser, bDevice⟩ := b
    obtain rfl : aUser = bUser := Std.LawfulEqOrd.eq_of_compare user
    obtain rfl : aDevice = bDevice := Std.LawfulEqOrd.eq_of_compare device
    exact h rfl
  unfold before
  rw [swap]
  cases eq : a.order b with
  | eq => exact absurd eq ne
  | lt => rfl
  | gt => rfl

namespace Peers

open Verification

/-- One side of a meeting. -/
structure Party where
  run : Run
  /-- The number of the counterpart's steps that it has taken. -/
  taken : Nat

namespace Party

def verification (p : Party) : Verification := p.run.verification

/-- The steps that a side handed over, the oldest first. -/
def sent (p : Party) : List Step := stepsOf p.run.effects

/-- Performs an operation. -/
def perform (p : Party) (op : Operation) (a : Answers) : Party :=
  { p with run := p.run.step (op, a) }

end Party

/-- Two devices between which a verification is requested. -/
structure Meeting where
  identity : Role → Identity
  distinct : identity .requester ≠ identity .responder
  /-- The methods that the request offers. -/
  methods : List Method
  timestamp : UInt64
  transaction : Transaction
  settings : Role → Sas.Settings
  route : Role → Route
  source : Role → KeySource

/-- What happens in a meeting. -/
inductive Event where
  /-- The user of a side does something. -/
  | act (role : Role) (wish : Wish) (a : Answers)
  /-- A side takes the oldest step that is under way to it. The device that sent the message may be
  known beside the step. -/
  | deliver (role : Role) (named : Bool) (a : Answers)

namespace Meeting

variable (m : Meeting)

/-- The request, as a side sees it. -/
def request (role : Role) : Request :=
  ⟨⟨(m.identity .requester).device, m.methods, m.timestamp⟩, role = .requester,
    (m.identity role.other).user, m.transaction⟩

/-- A side before anything happened. -/
def begin (role : Role) : Party :=
  ⟨.begin (.ofRequest (m.identity role) (m.settings role) (m.route role) (m.request role))
    (m.source role), 0⟩

/-- The device that is known to have sent a message to a side. -/
def sender (role : Role) (named : Bool) : Option String :=
  if named then some (m.identity role.other).device else none

variable {m}

/-- The steps that are under way to a side, the oldest first. -/
def underWay (w : Role → Party) (role : Role) : List Step :=
  (w role.other).sent.drop (w role).taken

variable (m)

/-- The sides after an event. -/
def step (w : Role → Party) : Event → Role → Party
  | .act role wish a => Function.update w role ((w role).perform wish.operation a)
  | .deliver role named a =>
    match underWay w role with
    | [] => w
    | step :: _ =>
      Function.update w role
        { (w role).perform (.receive (m.sender role named) step) a with
          taken := (w role).taken + 1 }

/-- The sides after several events. -/
def after (events : List Event) : Role → Party := events.foldl m.step m.begin

variable {m} {w : Role → Party}

theorem sent_perform (p : Party) (op : Operation) (a : Answers) : (p.perform op a).sent = p.sent ++
    stepsOf (Verification.perform a op p.run.verification p.run.source).effects := by
  unfold Party.sent Party.perform Run.step
  rw [Run.effects_extend, stepsOf_append]

end Meeting

/-! ## Where the sides are -/

/-- What the further course of a side depends on: its verification, what it can still draw, and what
it told. -/
structure Footing where
  verification : Verification
  source : KeySource
  told : List Step

/-- An operation of a side ended. -/
def Footing.after (x : Footing) (o : Outcome) : Footing :=
  ⟨o.verification, o.source, x.told ++ stepsOf o.effects⟩

namespace Party

/-- Where a side is. -/
def footing (p : Party) : Footing := ⟨p.verification, p.run.source, p.sent⟩

/-- An operation leads from one footing to another one. -/
theorem footing_perform {p : Party} {x : Footing} (here : p.footing = x) {op : Operation}
    {a : Answers} {o : Outcome} (ends : Verification.perform a op x.verification x.source = o) :
    (p.perform op a).footing = x.after o := by
  subst here ends
  exact congrArg (Footing.mk _ _) (Meeting.sent_perform p op a)

end Party

/-- Where both sides are, and how many steps of the other one each of them took. -/
structure Sides where
  footing : Role → Footing
  taken : Role → Nat

namespace Sides

/-- Where the sides of a meeting are. -/
def of (w : Role → Party) : Sides := ⟨fun role => (w role).footing, fun role => (w role).taken⟩

/-- An operation of a side ended. -/
def turns (s : Sides) (role : Role) (o : Outcome) : Sides :=
  { s with footing := Function.update s.footing role ((s.footing role).after o) }

/-- A side took one more step. -/
def takes (s : Sides) (role : Role) : Sides :=
  { s with taken := Function.update s.taken role (s.taken role + 1) }

variable {w : Role → Party} {s : Sides} {a : Answers} {o : Outcome}

theorem verification_eq (here : of w = s) (role : Role) :
    (w role).verification = (s.footing role).verification :=
  here ▸ rfl

/-- A side performs an operation, and may take a step. -/
theorem perform (here : of w = s) (role : Role) (taken : Nat) {op : Operation}
    (ends : Verification.perform a op (s.footing role).verification (s.footing role).source = o) :
    of (Function.update w role { (w role).perform op a with taken := taken }) =
      { s.turns role o with taken := Function.update s.taken role taken } := by
  subst here
  have ended : ((w role).perform op a).footing = ((w role).footing).after o :=
    Party.footing_perform rfl ends
  simp only [of, turns, mk.injEq]
  refine ⟨funext (Role.forall_of role ?_ ?_), funext (Role.forall_of role ?_ ?_)⟩
  · rw [Function.update_self, Function.update_self]
    exact ended
  · rw [Function.update_of_ne role.other_ne, Function.update_of_ne role.other_ne]
  · rw [Function.update_self, Function.update_self]
  · rw [Function.update_of_ne role.other_ne, Function.update_of_ne role.other_ne]

end Sides

namespace Meeting

variable (m : Meeting)

section

variable {w : Role → Party} {s : Sides} {said : Step}

/-- The user of a side does something. -/
theorem sides_act (here : Sides.of w = s) (role : Role) (wish : Wish) (a : Answers) (o : Outcome)
    (ends : Verification.perform a wish.operation (s.footing role).verification
      (s.footing role).source = o) :
    Sides.of (m.step w (.act role wish a)) = s.turns role o := by
  refine (Sides.perform here role (w role).taken ends).trans ?_
  subst here
  simp [Sides.of, Sides.turns]

/-- A side takes the next step of the other one. -/
theorem sides_deliver (here : Sides.of w = s) (role : Role) (named : Bool) (a : Answers)
    (o : Outcome) (next : (s.footing role.other).told[s.taken role]? = some said)
    (ends : Verification.perform a (.receive (m.sender role named) said)
      (s.footing role).verification (s.footing role).source = o) :
    Sides.of (m.step w (.deliver role named a)) = (s.turns role o).takes role := by
  have under : (underWay w role).head? = some said := by
    subst here
    rw [underWay, List.head?_drop]
    exact next
  obtain ⟨rest, under⟩ := List.head?_eq_some_iff.1 under
  simp only [step, under]
  refine (Sides.perform here role ((w role).taken + 1) ends).trans ?_
  subst here
  rfl

end

/-! ## What holds all along -/

/-- What holds between two honest sides. -/
structure Harmony (w : Role → Party) : Prop where
  within : ∀ role, (w role).taken ≤ (w role.other).sent.length
  honest : ∀ role, ∀ step ∈ (w role).sent, Honest (m.identity role) step
  stands : ∀ role, Stands (m.identity role) (m.identity role.other) role (w role).verification
    ((w role).sent.map (·.kind)) (((w role.other).sent.take (w role).taken).map (·.kind))
  faithful : ∀ role, Faithful (w role).run

variable {m} {w : Role → Party}

theorem harmony_begin (m : Meeting) : m.Harmony m.begin where
  within role := Nat.zero_le _
  honest role step mem := by cases mem
  faithful role := faithful_begin _ _ _ _ _
  stands role := by
    refine ⟨.requested, .inl ⟨⟨rfl, rfl, ?_, rfl, rfl, rfl⟩, ?_, trivial, .requested ?_ rfl, rfl,
      ?_⟩⟩
    · intro device known
      cases role with
      | requester => cases known
      | responder => exact (Option.some.inj known).symm
    · intro unknown
      cases role with
      | requester => exact ⟨rfl, rfl⟩
      | responder => cases unknown
    · cases role <;> rfl
    · exact congrArg (List.map _) List.take_zero

namespace Harmony

/-- A side that conducts itself well, with the steps that it takes, keeps the harmony. -/
theorem perform (h : m.Harmony w) (role : Role) (op : Operation) (a : Answers) {taken : Nat}
    (within : taken ≤ (w role.other).sent.length)
    (conducts : Conducts (m.identity role) (m.identity role.other) role
      (Verification.perform a op (w role).verification (w role).run.source).verification
      ((w role).sent.map (·.kind)) (((w role.other).sent.take taken).map (·.kind))
      (Verification.perform a op (w role).verification (w role).run.source).effects) :
    m.Harmony (Function.update w role { (w role).perform op a with taken := taken }) := by
  let new := stepsOf (Verification.perform a op (w role).verification (w role).run.source).effects
  generalize eq : Function.update w role _ = w'
  have here : w' role = { (w role).perform op a with taken := taken } := by
    rw [← eq, Function.update_self]
  have there : w' role.other = w role.other := by
    rw [← eq, Function.update_of_ne role.other_ne]
  have sent : (w' role).sent = (w role).sent ++ new := by
    rw [here]
    exact sent_perform (w role) op a
  have number : (w' role).taken = taken := by rw [here]
  have back : (w role.other).taken ≤ (w role).sent.length := by
    simpa using h.within role.other
  refine ⟨Role.forall_of role ?_ ?_, Role.forall_of role ?_ ?_, Role.forall_of role ?_ ?_,
    Role.forall_of role ?_ ?_⟩
  · rw [there, number]
    exact within
  · rw [there, Role.other_other, sent, List.length_append]
    omega
  · intro step mem
    rw [sent] at mem
    rcases List.mem_append.1 mem with mem | mem
    · exact h.honest role step mem
    · exact conducts.honest step mem
  · rw [there]
    exact h.honest role.other
  · have stands := conducts.stands
    rw [← List.map_append] at stands
    rw [there, number, sent, here]
    exact stands
  · have stands := h.stands role.other
    rw [Role.other_other] at stands ⊢
    rw [there, sent, List.take_append_of_le_length back]
    exact stands
  · rw [here]
    exact (h.faithful role).step (op, a)
  · rw [there]
    exact h.faithful role.other

/-- The lower one of two sides is the one that comes first. -/
theorem lower (m : Meeting) (role : Role) : (m.identity role.other).before (m.identity role) =
    !(m.identity role).before (m.identity role.other) := by
  apply Identity.before_swap
  cases role with
  | requester => exact m.distinct
  | responder => exact m.distinct.symm

/-- The stage at which the counterpart of a side stands, with what it told and took. -/
theorem counterpart (h : m.Harmony w) (role : Role) : ∃ t : Stage,
    t.Fits (!(m.identity role).before (m.identity role.other)) ∧
      ((w role.other).sent.map (·.kind) = t.sent role.other ∨
        (w role.other).sent.map (·.kind) = t.sent role.other ++ [.cancel]) ∧
      t.taken role.other <+: (w role).sent.map (·.kind) := by
  obtain ⟨t, going | stopped⟩ := h.stands role.other
  · have fits := going.fits
    rw [Role.other_other, lower] at fits
    refine ⟨t, fits, .inl going.sent, ?_⟩
    rw [← going.taken, Role.other_other]
    exact (List.take_prefix _ _).map _
  · have fits := stopped.fits
    rw [Role.other_other, lower] at fits
    refine ⟨t, fits, stopped.sent, stopped.taken.trans ?_⟩
    rw [Role.other_other]
    exact (List.take_prefix _ _).map _

/-- The oldest step that is under way comes after the ones that were taken. -/
theorem take_of_next {role : Role} {step : Step} {rest : List Step}
    (next : underWay w role = step :: rest) :
    (w role.other).sent.take ((w role).taken + 1) =
        (w role.other).sent.take (w role).taken ++ [step] ∧
      (w role).taken + 1 ≤ (w role.other).sent.length := by
  have found : (w role.other).sent[(w role).taken]? = some step := by
    rw [← List.head?_drop]
    exact congrArg List.head? next
  obtain ⟨bound, -⟩ := List.getElem?_eq_some_iff.1 found
  refine ⟨?_, bound⟩
  rw [List.take_add_one, found]
  rfl

/-- The oldest step that is under way to a side that goes on is one that it awaits. -/
theorem awaits (h : m.Harmony w) {role : Role} {step : Step} {rest : List Step}
    (next : underWay w role = step :: rest) {stage : Stage}
    (going : Going (m.identity role) (m.identity role.other) role (w role).verification
      ((w role).sent.map (·.kind)) (((w role.other).sent.take (w role).taken).map (·.kind))
      stage) : stage.Awaits role step.kind := by
  obtain ⟨t, fits, sent, taken⟩ := h.counterpart role
  refine Stage.awaits_of_told going.fits fits sent (going.sent ▸ taken) ?_
  have history := congrArg (List.map (·.kind)) (take_of_next next).1
  rw [List.map_append] at history
  rw [← going.taken]
  show _ ++ List.map (·.kind) [step] <+: _
  rw [← history]
  exact (List.take_prefix _ _).map _

/-- Every event keeps the harmony. -/
theorem step (h : m.Harmony w) (event : Event) : m.Harmony (m.step w event) := by
  cases event with
  | act role wish a =>
    exact h.perform role wish.operation a (h.within role)
      ((h.stands role).act wish a (w role).run.source)
  | deliver role named a =>
    simp only [Meeting.step]
    split
    · exact h
    · rename_i step rest next
      obtain ⟨history, bound⟩ := take_of_next next
      have comes : Comes (m.identity role.other) (m.sender role named) step := by
        refine ⟨h.honest role.other step ?_, fun device known => ?_⟩
        · exact List.mem_of_mem_drop (next ▸ List.mem_cons_self)
        · cases named with
          | true => exact (Option.some.inj known).symm
          | false => cases known
      have conducts := (h.stands role).hear comes (fun _ going => h.awaits next going) a
        (w role).run.source
      refine h.perform role (.receive (m.sender role named) step) a bound ?_
      rw [history, List.map_append]
      exact conducts

/-- The harmony lasts. -/
theorem after (m : Meeting) (events : List Event) : m.Harmony (m.after events) := by
  have lasts : ∀ w, m.Harmony w → m.Harmony (events.foldl m.step w) := by
    induction events with
    | nil => exact fun _ h => h
    | cons event events ih => exact fun _ h => ih _ (h.step event)
  exact lasts m.begin (harmony_begin m)

/-- No side is cancelled for an unexpected message. -/
theorem calm (h : m.Harmony w) (role : Role) {content : CancelContent} {isOwn : Bool}
    (state : (w role).verification.state = .cancelled content isOwn) : Calm content := by
  obtain ⟨stage, going | stopped⟩ := h.stands role
  · have running := going.not_terminal
    rw [isTerminal, state] at running
    cases running
  · exact stopped.calm content isOwn state

/-- A side that is done has told and heard so. -/
theorem done_of_state (h : m.Harmony w) (role : Role)
    (state : (w role).verification.state = .done) :
    .done ∈ (w role).sent ∧ .done ∈ (w role.other).sent.take (w role).taken := by
  have isDone : ∀ steps : List Step, .done ∈ steps.map (·.kind) → .done ∈ steps := by
    intro steps mem
    obtain ⟨step, mem, kind⟩ := List.mem_map.1 mem
    cases step <;> first | exact mem | cases kind
  obtain ⟨stage, going | stopped⟩ := h.stands role
  · have running := going.not_terminal
    rw [isTerminal, state] at running
    cases running
  · obtain ⟨told, heard⟩ := stopped.done state
    exact ⟨isDone _ told, isDone _ heard⟩

/-- When a side is done, both have told so. -/
theorem told_done (h : m.Harmony w) (role : Role) (state : (w role).verification.state = .done) :
    ∀ role, .done ∈ (w role).sent := by
  obtain ⟨told, heard⟩ := h.done_of_state role state
  exact Role.forall_of role told (List.mem_of_mem_take heard)

/-- A side that told that it is done has its trust recorded. -/
theorem recorded (h : m.Harmony w) (role : Role) (told : .done ∈ (w role).sent) :
    ∃ keys, .trust keys .recorded ∈ (w role).run.effects := by
  obtain ⟨e, mem, done⟩ := List.mem_filterMap.1 told
  exact (h.faithful role).recorded_of_done ⟨e, mem, done⟩

end Harmony

/-- **Both sides conclude together.** Whatever the users do and in whatever order the steps arrive,
neither side is ever cancelled for an unexpected message, and when one side is done, both have
recorded their trust and told so. -/
theorem concludes_together (m : Meeting) (events : List Event) :
    (∀ role content isOwn, (m.after events role).verification.state = .cancelled content isOwn →
      content.code ≠ .unexpectedMessage) ∧
    ∀ role, (m.after events role).verification.state = .done →
      ∀ role', (∃ keys, .trust keys .recorded ∈ (m.after events role').run.effects) ∧
        .done ∈ (m.after events role').sent := by
  have harmony := Harmony.after m events
  constructor
  · intro role content isOwn state
    exact harmony.calm role state
  · intro role state role'
    have told := harmony.told_done role state role'
    exact ⟨harmony.recorded role' told, told⟩

/-! ## Alice and Bob -/

section

open Sas Sas.Duet

/-- Alice asks Bob to verify her. -/
def sample : Meeting where
  identity
    | .requester => sampleContext.their
    | .responder => sampleContext.own
  distinct := by decide
  methods := [.sas]
  timestamp := 0
  transaction := .direct "tx"
  settings _ := .default
  route
    | .requester => .devices ["BOB"]
    | .responder => .devices ["ALICE"]
  source
    | .requester => ⟨[.ok (sampleKeyPair 5)]⟩
    | .responder => ⟨[.ok (sampleKeyPair 6)]⟩

/-- Alice and Bob start at once, and Bob rejects the short code that the race leads to. -/
def sampleRejection : List Event :=
  [.act .responder .ready sampleAnswers, .deliver .requester true sampleAnswers,
    .act .requester (.start .sas) sampleAnswers, .act .responder (.start .sas) sampleAnswers,
    .deliver .requester false sampleAnswers, .deliver .responder false sampleAnswers,
    .act .responder (.act 2 .accept) sampleAnswers, .deliver .requester true sampleAnswers,
    .deliver .responder true sampleAnswers, .act .responder (.act 2 .reject) sampleAnswers]

/-- Alice asks Bob in a room. -/
def sampleInRoom : Meeting :=
  { sample with
    transaction := .conversation "$a"
    route := fun _ => .room "!r" }

/-! The texts of the short code and of the MACs do not matter to what follows. So they stay unknown,
and what the machines of Alice and Bob come to is given for all of them. -/

/-- The machine of Alice, who starts. -/
def aliceRun : Machine :=
  .ownStart 1 ⟨sample.identity .requester, sample.identity .responder, sampleInRoom.transaction⟩
    .default

/-- The machine of Bob, who is asked to accept. -/
def bobRun : Machine :=
  .init 1 ⟨sample.identity .responder, sample.identity .requester, sampleInRoom.transaction⟩
    .default false aliceRun.start

/-- What Bob answers to the start. -/
def bobAccepts : AcceptContent :=
  sampleAgreement.acceptContent (commitment (sampleKeyPair 6).publicKey bobRun.canonicalStart)

/-- The machine of Bob, who accepted. -/
def bobCommitted : Machine := bobRun.accepting sampleAgreement (sampleKeyPair 6)

/-- The machine of Alice, who sent her key. -/
def aliceRevealed : Machine :=
  (aliceRun.agreed sampleAgreement bobAccepts).revealing (sampleKeyPair 5)

/-- The machine of Bob, who sees a short code. -/
def bobShows (code : ShortCode) : Machine :=
  { bobCommitted with state := .waitForKeys false }.reveal sampleSecret code

/-- The machine of Alice, who sees a short code. -/
def aliceShows (code : ShortCode) : Machine := aliceRevealed.reveal sampleSecret code

/-- A side whose machine runs, after a number of steps that came in. -/
def runs (role : Role) (m : Machine) (heard : Nat) : Verification :=
  { (sampleInRoom.begin role).verification with
    state := .start .sas (sample.identity .requester).device 1
    theirDevice := some (sample.identity role.other).device
    machine := some m
    nextGeneration := 2
    activity := heard }

/-- The end of an operation that told some steps. -/
def tells (v : Verification) (told : List Step) : Outcome :=
  ⟨v, ⟨[]⟩, told.map fun step => .send (.room "!r") step none, .done⟩

/-- The end of an operation that told some steps and had keys trusted. -/
def trusts (role : Role) (m : Machine) (heard : Nat) (told : List Step)
    (keys : List VerifiableKey) : Outcome :=
  ⟨Progress.completed (runs role m heard), ⟨[]⟩,
    told.map (fun step => .send (.room "!r") step none) ++
      [.trust keys .recorded, .send (.room "!r") .done none], .done⟩

/-! From the start to the short codes. -/

section

variable {code : ShortCode}

/-- The key pairs lead to a short code. -/
def Shown (code : ShortCode) : Prop :=
  sampleSecret.shortCode (Machine.shortCodePurpose aliceRun.context true
    (sampleKeyPair 5).publicKey (sampleKeyPair 6).publicKey) = .ok code

theorem bob_accepts :
    perform sampleAcquainted (.act 1 .accept) (runs .responder bobRun 1)
        ⟨[.ok (sampleKeyPair 6)]⟩ =
      tells (runs .responder bobCommitted 1) [.accept bobAccepts] := by
  have negotiates : bobRun.settings.negotiate bobRun.start = some sampleAgreement := by
    decide +kernel
  exact (perform_act_of_take (m := bobRun) rfl rfl rfl .accept
    (Machine.take_accept rfl negotiates rfl)).trans rfl

theorem alice_reveals :
    perform sampleAcquainted (.receive none (.accept bobAccepts)) (runs .requester aliceRun 1)
        ⟨[.ok (sampleKeyPair 5)]⟩ =
      tells (runs .requester aliceRevealed 2) [.key ⟨(sampleKeyPair 5).publicKey⟩] := by
  have agrees : aliceRun.settings.accepted aliceRun.start bobAccepts = some sampleAgreement := by
    decide +kernel
  exact (perform_receive_of_take (m := aliceRun) rfl rfl rfl (.accepted ⟨rfl, rfl⟩)
    (Machine.take_accepted rfl agrees rfl)).trans rfl

theorem bob_shows (shown : Shown code) :
    perform sampleAcquainted (.receive none (.key ⟨(sampleKeyPair 5).publicKey⟩))
        (runs .responder bobCommitted 1) ⟨[]⟩ =
      tells (runs .responder (bobShows code) 2) [.key ⟨(sampleKeyPair 6).publicKey⟩] := by
  have agrees : (sampleKeyPair 6).exchange (sampleKeyPair 5).publicKey = .ok sampleSecret := by
    decide +kernel
  exact (perform_receive_of_take (m := bobCommitted) rfl rfl rfl (.key ⟨rfl, rfl⟩)
    (Machine.take_key_of_accepter rfl rfl rfl (Machine.derive_eq rfl agrees shown))).trans rfl

theorem alice_shows (shown : Shown code) :
    perform sampleAcquainted (.receive none (.key ⟨(sampleKeyPair 6).publicKey⟩))
        (runs .requester aliceRevealed 2) ⟨[]⟩ =
      tells (runs .requester (aliceShows code) 3) [] := by
  have agrees : (sampleKeyPair 5).exchange (sampleKeyPair 6).publicKey = .ok sampleSecret := by
    decide +kernel
  -- The commitment is to the key that comes, whatever its text.
  have committed : verifyCommitment (sampleKeyPair 6).publicKey aliceRun.canonicalStart
      bobAccepts.commitment = true := beq_self_eq_true _
  exact (perform_receive_of_take (m := aliceRevealed) rfl rfl rfl (.key ⟨rfl, rfl⟩)
    (Machine.take_key_of_starter rfl rfl rfl committed
      (Machine.derive_eq rfl agrees shown))).trans rfl

/-! From the short codes to the end: Alice confirms, and after her Bob, who has her MACs then. -/

theorem aliceCompares : (aliceShows code).Compares sampleSecret .unpadded := by
  have agreed : (aliceShows code).agreement = some sampleAgreement := rfl
  exact Machine.compares_reveal agreed (by decide) rfl

theorem bobCompares : (bobShows code).Compares sampleSecret .unpadded := by
  have agreed : (bobShows code).agreement = some sampleAgreement := rfl
  exact Machine.compares_reveal agreed (by decide) rfl

variable {ours theirs : MacContent} {verified : List VerifiableKey}

theorem alice_confirms
    (computed : macContent sampleSecret .unpadded aliceRun.ownPurpose [sampleKeyOf "ALICE"] =
      .ok ours) :
    perform sampleAcquainted (.act 1 .confirm) (runs .requester (aliceShows code) 3) ⟨[]⟩ =
      tells (runs .requester (aliceShows code).confirmed 3) [.mac ours] :=
  (perform_act_of_take (m := aliceShows code) rfl rfl rfl (.confirm rfl)
    (aliceCompares.take_confirm_first computed)).trans rfl

theorem bob_holds (ours : MacContent) :
    perform sampleAcquainted (.receive none (.mac ours)) (runs .responder (bobShows code) 2) ⟨[]⟩ =
      tells (runs .responder { bobShows code with pendingMac := some ours } 3) [] :=
  (perform_receive_of_take (m := bobShows code) rfl rfl rfl (.mac ⟨rfl, rfl⟩ rfl)
    bobCompares.take_mac_first).trans rfl

theorem bob_trusts
    (computed : macContent sampleSecret .unpadded bobRun.ownPurpose [sampleKeyOf "BOB"] =
      .ok theirs)
    (checked : checkMac sampleSecret .unpadded aliceRun.ownPurpose ours [sampleKeyOf "ALICE"] =
      .ok verified) :
    perform sampleAcquainted (.act 1 .confirm)
        (runs .responder { bobShows code with pendingMac := some ours } 3) ⟨[]⟩ =
      trusts .responder (bobShows code).confirmed 3 [.mac theirs] verified :=
  (perform_act_of_take (m := { bobShows code with pendingMac := some ours }) rfl rfl rfl
    (.confirm rfl) (bobCompares.take_confirm_pending computed checked)).trans rfl

theorem alice_trusts
    (checked : checkMac sampleSecret .unpadded bobRun.ownPurpose theirs [sampleKeyOf "BOB"] =
      .ok verified) :
    perform sampleAcquainted (.receive none (.mac theirs))
        (runs .requester (aliceShows code).confirmed 3) ⟨[]⟩ =
      trusts .requester (aliceShows code).confirmed 4 [] verified :=
  (perform_receive_of_take (m := (aliceShows code).confirmed) rfl rfl rfl
    (.mac ⟨rfl, rfl⟩ rfl) (aliceCompares.take_mac_confirmed checked)).trans rfl

end

/-- Where Alice and Bob are when both of them know of the start. -/
def startedFooting : Role → Footing
  | .requester => ⟨runs .requester aliceRun 1, ⟨[.ok (sampleKeyPair 5)]⟩, [.start aliceRun.start]⟩
  | .responder =>
    ⟨runs .responder bobRun 1, ⟨[.ok (sampleKeyPair 6)]⟩, [.ready ⟨"BOB", [.sas]⟩]⟩

/-- Bob is ready, and Alice starts. -/
def sampleStarting : List Event :=
  [.act .responder .ready sampleAcquainted, .deliver .requester false sampleAcquainted,
    .act .requester (.start .sas) sampleAcquainted, .deliver .responder false sampleAcquainted]

/-- They reveal their keys to each other, and each of them confirms and trusts the other. -/
def sampleTrusting : List Event :=
  [.act .responder (.act 1 .accept) sampleAcquainted, .deliver .requester false sampleAcquainted,
    .deliver .responder false sampleAcquainted, .deliver .requester false sampleAcquainted,
    .act .requester (.act 1 .confirm) sampleAcquainted, .deliver .responder false sampleAcquainted,
    .act .responder (.act 1 .confirm) sampleAcquainted, .deliver .requester false sampleAcquainted,
    .deliver .requester false sampleAcquainted, .deliver .responder false sampleAcquainted]

/-- All of it. -/
def sampleTrust : List Event := sampleStarting ++ sampleTrusting

theorem of_sampleStarting :
    Sides.of (sampleInRoom.after sampleStarting) = ⟨startedFooting, fun _ => 1⟩ := by
  refine congrArg₂ Sides.mk (funext ?_) (funext ?_) <;> rintro (_ | _) <;> rfl

/-- Whatever short code and MACs the key pairs lead to, Alice and Bob are done. -/
theorem done_sampleTrust (role : Role) :
    (sampleInRoom.after sampleTrust role).verification.state = .done := by
  obtain ⟨code, shown, -⟩ := sampleSecret.shortCode_ok (Machine.shortCodePurpose aliceRun.context
    true (sampleKeyPair 5).publicKey (sampleKeyPair 6).publicKey)
  obtain ⟨ours, verified, computed, checked, -⟩ :=
    checkMac_macContent sampleSecret .unpadded aliceRun.ownPurpose (.single (sampleKeyOf "ALICE"))
  obtain ⟨theirs, verified', computed', checked', -⟩ :=
    checkMac_macContent sampleSecret .unpadded bobRun.ownPurpose (.single (sampleKeyOf "BOB"))
  have accepted := sampleInRoom.sides_act of_sampleStarting .responder (.act 1 .accept)
    sampleAcquainted _ bob_accepts
  have revealed := sampleInRoom.sides_deliver accepted .requester false sampleAcquainted _ rfl
    alice_reveals
  have answered := sampleInRoom.sides_deliver revealed .responder false sampleAcquainted _ rfl
    (bob_shows shown)
  have compared := sampleInRoom.sides_deliver answered .requester false sampleAcquainted _ rfl
    (alice_shows shown)
  have confirmed := sampleInRoom.sides_act compared .requester (.act 1 .confirm) sampleAcquainted _
    (alice_confirms computed)
  have held := sampleInRoom.sides_deliver confirmed .responder false sampleAcquainted _ rfl
    (bob_holds ours)
  have concluded := sampleInRoom.sides_act held .responder (.act 1 .confirm) sampleAcquainted _
    (bob_trusts computed' checked)
  have finished := sampleInRoom.sides_deliver concluded .requester false sampleAcquainted _ rfl
    (alice_trusts checked')
  have heard := sampleInRoom.sides_deliver finished .requester false sampleAcquainted _ rfl rfl
  have ended := sampleInRoom.sides_deliver heard .responder false sampleAcquainted _ rfl rfl
  have whole : sampleInRoom.after sampleTrust =
      sampleTrusting.foldl sampleInRoom.step (sampleInRoom.after sampleStarting) :=
    List.foldl_append
  -- The events are taken off one by one, as nothing of what they do is to be computed here.
  rw [whole, sampleTrusting]
  repeat rw [List.foldl_cons]
  rw [List.foldl_nil, Sides.verification_eq ended]
  cases role <;> rfl

/-- Bob's side is cancelled in the end, for no unexpected message. -/
theorem concludes_together_sample : (∃ content,
    (sample.after sampleRejection .responder).verification.state = .cancelled content true ∧
      content.code ≠ .unexpectedMessage) ∧
    ∀ role, (sampleInRoom.after sampleTrust role).verification.state = .done ∧
      (∃ keys, .trust keys .recorded ∈ (sampleInRoom.after sampleTrust role).run.effects) ∧
      .done ∈ (sampleInRoom.after sampleTrust role).sent := by
  have rejected : (sample.after sampleRejection .responder).verification.state =
      .cancelled ⟨.mismatchedSas, "short authentication strings do not match"⟩ true := by
    decide +kernel
  refine ⟨⟨_, rejected, (concludes_together sample sampleRejection).1 .responder _ true rejected⟩,
    fun role => ⟨done_sampleTrust role, ?_⟩⟩
  exact (concludes_together sampleInRoom sampleTrust).2 .requester (done_sampleTrust _) role

end

end Meeting

end Peers

end DeviceVerification
