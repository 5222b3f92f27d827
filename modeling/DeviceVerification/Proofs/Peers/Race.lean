import DeviceVerification.Proofs.Peers.Meeting
import DeviceVerification.Proofs.Service.Echo
import DeviceVerification.Proofs.Verification.Final
import DeviceVerification.Proofs.Verification.Generation
import DeviceVerification.Proofs.Verification.OwnStart

/-!
# Both sides start at once

Two sides that know each other may both send a start before the one of the other arrives. Each
decides for itself which of the two starts is in effect, and they decide alike: the start of the
lower device is (`Racing.settles`). The machine that gives way is replaced, but handles to it live
on; `start_race_settles` says what they can still do. A side whose device was in a run before, and
that finds the steps of that run in the history of its room, does not hear any steps of a run from
then on: it takes no part in the race and keeps its start (`start_race_open`).
-/

namespace DeviceVerification.Peers

open Verification

variable {v w : Verification} {m n : Sas.Machine}

/-! ## Two starts -/

/-- A side whose own start waits for its answer. -/
structure Waits (v : Verification) (m : Sas.Machine) : Prop where
  reached : Reachable v
  running : v.state.isRunning = true
  machine : v.machine = some m
  state : m.state = .ownStart

/-- A side verifies the other one. -/
structure Faces (v w : Verification) : Prop where
  user : v.theirUser = w.own.user
  device : v.theirDevice = some w.own.device
  transaction : v.transaction = w.transaction

/-- Two devices verify each other, and both sent a start that waits for its answer. -/
structure Racing (v w : Verification) (m n : Sas.Machine) : Prop where
  first : Waits v m
  second : Waits w n
  faces : Faces v w
  faced : Faces w v
  distinct : v.own ≠ w.own

theorem Racing.symm (h : Racing v w m n) : Racing w v n m :=
  ⟨h.second, h.first, h.faced, h.faces, h.distinct.symm⟩

namespace Waits

/-- The machine is as our start made it. -/
theorem machine_eq (h : Waits v m) : m = .ownStart m.generation m.context v.settings :=
  h.reached.pristine.machine m h.machine h.state

theorem weStarted (h : Waits v m) : m.weStarted = true := by
  rw [h.machine_eq]
  rfl

/-- The start names our device. -/
theorem fromDevice (h : Waits v m) : m.start.fromDevice = v.own.device := by
  obtain ⟨device, -, context⟩ := context?_eq_some_iff.1 (h.reached.context h.machine)
  have start : m.start = v.settings.startContent m.context.own.device :=
    congrArg Sas.Machine.start h.machine_eq
  rw [start, context]
  rfl

theorem transaction (h : Waits v m) : m.context.transaction = v.transaction := by
  obtain ⟨device, -, context⟩ := context?_eq_some_iff.1 (h.reached.context h.machine)
  rw [context]

theorem free (h : Waits v m) : v.held = false := by
  cases held : v.held with
  | false => rfl
  | true => exact absurd h.state (h.reached.pristine.free held m h.machine)

theorem pending (h : Waits v m) : Progress.ownStartPending v = true := by
  unfold Progress.ownStartPending
  rw [h.machine]
  simp [h.weStarted, h.state]

end Waits

/-- A start comes from a device, which the message names if it names any. -/
def Names (sender : Option String) (device : String) : Prop := ∀ d ∈ sender, d = device

theorem Faces.near {sender : Option String} (h : Faces v w) (names : Names sender w.own.device)
    (waits : Waits w n) : Progress.isStray v sender (.start n.start) = false := by
  unfold Progress.isStray
  rw [h.device]
  cases sender with
  | none => simp [Step.fromDevice?, waits.fromDevice]
  | some d =>
    have same : d = w.own.device := names d rfl
    simp [same]

/-! ## How the race is settled -/

/-- The starts of two sides crossed. The lower side goes on with its machine, and the other one has
a machine for the lower side's start in place of its own. -/
structure Settled (low high : Verification) (m n : Sas.Machine) (lowAfter highAfter : Outcome) :
    Prop where
  keeps : lowAfter.verification.machine = some m ∧ lowAfter.verification.state = low.state
  starter : m.weStarted = true ∧ m.state = .ownStart
  yields : ∃ k, highAfter.verification.machine = some k ∧ k.state = .theirStart ∧
    k.weStarted = false ∧ k.start = m.start ∧ k.canonicalStart = m.canonicalStart ∧
    n.generation < k.generation ∧
    highAfter.verification.state = .start m.start.method low.own.device k.generation
  silent : lowAfter.effects = [] ∧ highAfter.effects = []

/-- However the two starts arrive, and whatever the surroundings answer, the lower side's start is
in effect on both sides. -/
def Settles (low high : Verification) (m n : Sas.Machine) : Prop :=
  ∀ a b source source' sender sender', Names sender high.own.device →
    Names sender' low.own.device →
      Settled low high m n (perform a (.receive sender (.start n.start)) low source)
        (perform b (.receive sender' (.start m.start)) high source')

/-- What a side makes of the other one's start depends on which of the two devices is lower. -/
theorem Racing.second_start (h : Racing v w m n) (a : Answers) (source : KeySource)
    {sender : Option String} (names : Names sender w.own.device) :
    (v.sasLost = true ∨ v.own.before w.own = true) ∧
        (∃ reply, perform a (.receive sender (.start n.start)) v source =
          ⟨v.counted (.receive sender (.start n.start)), source, [], reply⟩) ∨
      v.own.before w.own = false ∧ ∃ v' effects reply,
        Adopted { v.counted (.receive sender (.start n.start)) with machine := none } n.start v'
          effects ∧
        perform a (.receive sender (.start n.start)) v source = ⟨v', source, effects, reply⟩ := by
  have t : Transition a (v.counted (.receive sender (.start n.start))) source
      (.receive sender (.start n.start)) (perform a (.receive sender (.start n.start)) v source) :=
    transition_of_perform h.first.free _
  have running : (v.counted (.receive sender (.start n.start))).state.isRunning = true := by
    rw [counted_state]
    exact h.first.running
  have pending :
      Progress.ownStartPending (v.counted (.receive sender (.start n.start))) = true := by
    simpa [Progress.ownStartPending] using h.first.pending
  have near : Progress.isStray (v.counted (.receive sender (.start n.start))) sender
      (.start n.start) = false := by
    simpa [Progress.isStray] using h.faces.near names h.second
  have sentBy : (⟨v.theirUser, n.start.fromDevice⟩ : Identity) = w.own := by
    rw [h.faces.user, h.second.fromDevice]
  have compared : (v.counted (.receive sender (.start n.start))).own.before
      ⟨(v.counted (.receive sender (.start n.start))).theirUser, n.start.fromDevice⟩ =
        v.own.before w.own := by
    rw [counted_own, theirUser, counted_request, ← theirUser, sentBy]
  obtain ⟨kept, silent⟩ | ⟨higher, adopted⟩ := t.second_start running pending near
  · rw [compared, counted_sasLost] at kept
    exact .inl ⟨kept, silent⟩
  · exact .inr ⟨compared.symm.trans higher, adopted⟩

/-- The lower side ignores the start of the other one. -/
theorem Racing.keeps (h : Racing v w m n) (lower : v.own.before w.own = true) (a : Answers)
    (source : KeySource) {sender : Option String} (names : Names sender w.own.device) :
    ∃ reply, perform a (.receive sender (.start n.start)) v source =
      ⟨v.counted (.receive sender (.start n.start)), source, [], reply⟩ := by
  obtain ⟨-, reply, outcome⟩ | ⟨higher, -⟩ := h.second_start a source names
  · exact ⟨reply, outcome⟩
  · cases lower.symm.trans higher

/-- The other side has a machine for the lower side's start in place of its own. -/
theorem Racing.yields (h : Racing v w m n) (lower : v.own.before w.own = true)
    (unlost : w.sasLost = false) (compatible : (w.settings.negotiate m.start).isSome = true)
    (a : Answers) (source : KeySource) {sender : Option String}
    (names : Names sender v.own.device) :
    ∃ k reply, perform a (.receive sender (.start m.start)) w source =
        ⟨{ w.counted (.receive sender (.start m.start)) with
            nextGeneration := w.nextGeneration + 1
            machine := some k
            state := .start m.start.method v.own.device k.generation }, source, [], reply⟩ ∧
      k = .init w.nextGeneration n.context w.settings false m.start := by
  have higher : w.own.before v.own = false := by
    rw [Identity.before_swap h.distinct, lower]
    rfl
  obtain ⟨lost | lower', -⟩ | ⟨-, w', effects, reply, adopted, outcome⟩ :=
    h.symm.second_start a source names
  · cases unlost.symm.trans lost
  · cases higher.symm.trans lower'
  · have known : ({ w.counted (.receive sender (.start m.start)) with
        machine := none } : Verification).context? = some n.context := by
      rw [← h.second.reached.context h.second.machine]
      exact counted_context? w _
    rw [outcome]
    cases adopted with
    | stranger unknown => cases known.symm.trans unknown
    | unagreed known' made => simp [Sas.Machine.theirStart, compatible] at made
    | @adopted _ k known' made =>
      obtain rfl := Option.some.inj (known.symm.trans known')
      obtain rfl := Sas.Machine.eq_init_of_theirStart made
      refine ⟨_, reply, ?_, rfl⟩
      simp [Sas.Machine.init, enter, State.isTerminal, h.first.fromDevice]

/-- The start of the lower device is in effect on both sides. -/
theorem Racing.settles (h : Racing v w m n) (lower : v.own.before w.own = true)
    (unlost : w.sasLost = false) (compatible : (w.settings.negotiate m.start).isSome = true) :
    Settles v w m n := by
  intro a b source source' sender sender' names names'
  obtain ⟨reply, kept⟩ := h.keeps lower a source names
  obtain ⟨k, reply', yielded, made⟩ := h.yields lower unlost compatible b source' names'
  have transaction : n.context.transaction = m.context.transaction := by
    rw [h.second.transaction, h.first.transaction, h.faces.transaction]
  rw [kept, yielded]
  refine ⟨⟨?_, ?_⟩, ⟨h.first.weStarted, h.first.state⟩, ⟨k, rfl, ?_, ?_, ?_, ?_, ?_, rfl⟩, rfl, rfl⟩
  · rw [counted_machine]
    exact h.first.machine
  · rw [counted_state]
  · rw [made]
    rfl
  · rw [made]
    rfl
  · rw [made]
    rfl
  · rw [made]
    unfold Sas.Machine.canonicalStart
    rw [← transaction]
    rfl
  · rw [made]
    exact h.second.reached.generation_lt h.second.machine

/-- **Start races are settled, and what was replaced stays replaced.** When both sides started at
once, one of the two devices is lower; its start is in effect on both sides once both starts
arrived, if the other side has not lost a run to the history. No verification ever takes a
generation for a second machine, and an action that carries the generation of a machine that was
replaced is never performed: at any later time it changes nothing. -/
theorem start_race_settles (racing : Racing v w m n) {r : Verification.Run} (whole : r.Whole) :
    (v.own.before w.own = true ∧ w.own.before v.own = false ∧
          (w.sasLost = false → (w.settings.negotiate m.start).isSome = true → Settles v w m n) ∨
        w.own.before v.own = true ∧ v.own.before w.own = false ∧
          (v.sasLost = false → (v.settings.negotiate n.start).isSome = true → Settles w v n m)) ∧
      Grounded Numbered r.log ∧
      ∀ e ∈ r.log, ∀ k, e.Replaces k → ∀ a action source,
        perform a (.act k.generation action) r.verification source =
          ⟨r.verification, source, [], r.verification.staleReply action⟩ := by
  refine ⟨?_, whole.generations.log, ?_⟩
  · have swapped : w.own.before v.own = !v.own.before w.own :=
      Identity.before_swap racing.distinct
    cases lower : v.own.before w.own with
    | true =>
      rw [lower] at swapped
      exact .inl ⟨rfl, swapped, racing.settles lower⟩
    | false =>
      rw [lower] at swapped
      exact .inr ⟨swapped, rfl, racing.symm.settles swapped⟩
  · intro e mem k replaces a action source
    exact perform_act_of_stale (whole.generations.stale mem replaces) a action source

/-! ### Alice and Bob start at once -/

section

open Sas

/-- Alice, who heard that Bob is ready, and starts. -/
def sampleAlice (v : Verification) : Verification.Run :=
  (Verification.Run.begin v ⟨[]⟩).steps
    [(.receive none (.ready ⟨"BOB", [.sas]⟩), sampleAnswers), (.start .sas, sampleAnswers)]

/-- The direct verification that Alice asks for. -/
def sampleAsking : Verification :=
  ofRequest sampleContext.their .default (.devices ["BOB"]) (sampleRequest true)

/-- Bob, who is ready, and starts. -/
def sampleBob : Verification.Run :=
  (Verification.Run.begin sampleAsked ⟨[]⟩).steps
    [(.ready, sampleAnswers), (.start .sas, sampleAnswers)]

/-- Bob's run once Alice's start came in. -/
def sampleYielded : Verification.Run :=
  sampleBob.step
    (.receive (some "ALICE") (.start (Settings.default.startContent "ALICE")), sampleAnswers)

/-- The machine of Alice's start. -/
def aliceStart (transaction : Transaction) : Machine :=
  .ownStart 1 ⟨sampleContext.their, sampleContext.own, transaction⟩ .default

/-- The machine of Bob's start. -/
def bobStart (transaction : Transaction) : Machine :=
  .ownStart 1 ⟨sampleContext.own, sampleContext.their, transaction⟩ .default

/-- Bob's start gives way to Alice's, and a late accept of it is refused. -/
theorem start_race_settles_sample :
    Settles (sampleAlice sampleAsking).verification sampleBob.verification
        (aliceStart (.direct "tx")) (bobStart (.direct "tx")) ∧
      perform sampleAnswers (.act 1 .accept) sampleYielded.verification ⟨[]⟩ =
        ⟨sampleYielded.verification, ⟨[]⟩, [], .refused .gone⟩ := by
  have alice : Waits (sampleAlice sampleAsking).verification (aliceStart (.direct "tx")) :=
    ⟨⟨_, ⟨_, _, _, sampleRequest true, _, _, rfl⟩, rfl⟩, by decide +kernel, by decide +kernel, rfl⟩
  have bob : Waits sampleBob.verification (bobStart (.direct "tx")) :=
    ⟨⟨_, ⟨_, _, _, sampleRequest false, _, _, rfl⟩, rfl⟩, by decide +kernel, by decide +kernel, rfl⟩
  have racing : Racing (sampleAlice sampleAsking).verification sampleBob.verification
      (aliceStart (.direct "tx")) (bobStart (.direct "tx")) :=
    ⟨alice, bob, ⟨by decide +kernel, by decide +kernel, by decide +kernel⟩,
      ⟨by decide +kernel, by decide +kernel, by decide +kernel⟩, by decide +kernel⟩
  have lower : (sampleAlice sampleAsking).verification.own.before sampleBob.verification.own =
      true := by
    decide +kernel
  have after : sampleYielded.verification.machine =
      some (.init 2 sampleContext .default false (Settings.default.startContent "ALICE")) := by
    decide +kernel
  have whole : sampleYielded.Whole :=
    ⟨_, _, _, sampleRequest false, ⟨[]⟩,
      [(.ready, sampleAnswers), (.start .sas, sampleAnswers),
        (.receive (some "ALICE") (.start (Settings.default.startContent "ALICE")), sampleAnswers)],
      rfl⟩
  obtain ⟨race, -, stale⟩ := start_race_settles racing whole
  constructor
  · rcases race with ⟨-, -, settles⟩ | ⟨-, higher, -⟩
    · exact settles (by decide +kernel) (by decide +kernel)
    · cases lower.symm.trans higher
  · have replaces : Record.Replaces ⟨sampleBob.verification,
        .receive (some "ALICE") (.start (Settings.default.startContent "ALICE")), sampleAnswers,
        perform sampleAnswers
          (.receive (some "ALICE") (.start (Settings.default.startContent "ALICE")))
          sampleBob.verification sampleBob.source⟩ (bobStart (.direct "tx")) := by
      refine ⟨bob.machine, ?_⟩
      intro m machine
      obtain rfl := Option.some.inj (after.symm.trans machine)
      decide
    have late := stale _ (List.mem_append_right _ (List.mem_singleton_self _))
      (bobStart (.direct "tx")) replaces sampleAnswers .accept ⟨[]⟩
    have reply : sampleYielded.verification.staleReply .accept = .refused .gone := by
      decide +kernel
    rw [← reply]
    exact late

end

/-! ### Bob comes back to a run -/

section

open Reading

/-- Bob's device was ready and started before, and comes back to the room. While something that was
said before that is still being decrypted, Bob says again that he is ready and starts. Then the
follower comes to the start of the earlier run; what comes next, Alice's start, is not decrypted
yet. -/
def sampleReturn : List Happening :=
  [.append sampleAsks, .pend "!r" "$p",
    .append (sampleStep "$r" "@bob:x" (.ready ⟨"BOB", [.sas]⟩)),
    .append (sampleStep "$s" "@bob:x" sampleOwnStart), .pend "!r" "$a", .subscribe] ++
    List.replicate 2 (.read sampleAnswers) ++
    [.act .ready sampleAnswers, .post "$r2" 0, .act (.start .sas) sampleAnswers, .post "$s2" 0,
      .decrypt 0 ⟨none, false⟩] ++
    List.replicate 3 (.read sampleAnswers)

/-- Alice in the room. -/
def sampleAliceInRoom : Verification.Run :=
  sampleAlice (sampleAskedInRoom Sas.sampleContext.their true)

/-- **A race with somebody who was there before.** Bob's device finds a start of its own that this
verification did not send, and nothing that it did send. So it does not hear steps of a run any
more, and Bob keeps the start that he sent in the meantime, although Alice is lower. -/
theorem start_race_open :
    ∃ s, sampleBegin.Leads sampleReturn s ∧
      (∃ h ∈ s.handed, h.Loses sampleReader) ∧
      s.posted.length = 2 ∧ (∀ h ∈ s.handed, h.event ∉ s.posted) ∧
      Racing sampleAliceInRoom.verification s.verification
        (aliceStart (.conversation "$q")) (bobStart (.conversation "$q")) ∧
      sampleAliceInRoom.verification.own.before s.verification.own = true ∧
      (s.verification.settings.negotiate (aliceStart (.conversation "$q")).start).isSome = true ∧
      ¬Settles sampleAliceInRoom.verification s.verification
        (aliceStart (.conversation "$q")) (bobStart (.conversation "$q")) := by
  have leads : sampleBegin.Leads sampleReturn (sampleBegin.run sampleReturn) :=
    ⟨by decide +kernel, rfl⟩
  have found : ∃ h ∈ (sampleBegin.run sampleReturn).handed,
      h.operation? sampleReader = some (.replay sampleOwnStart) := by decide +kernel
  obtain ⟨h, handed, replays⟩ := found
  have alice : Waits sampleAliceInRoom.verification (aliceStart (.conversation "$q")) :=
    ⟨⟨_, ⟨_, _, _, _, _, _, rfl⟩, rfl⟩, by decide +kernel, by decide +kernel, rfl⟩
  have bob : Waits (sampleBegin.run sampleReturn).verification (bobStart (.conversation "$q")) :=
    ⟨leads.reachable, by decide +kernel, by decide +kernel, rfl⟩
  refine ⟨_, leads, ⟨h, handed, sampleOwnStart, replays, rfl⟩, by decide +kernel,
    by decide +kernel, ⟨alice, bob, ⟨by decide +kernel, by decide +kernel, by decide +kernel⟩,
      ⟨by decide +kernel, by decide +kernel, by decide +kernel⟩, by decide +kernel⟩,
    by decide +kernel, by decide +kernel, ?_⟩
  intro settles
  have anonymous : ∀ device, Names none device := fun _ _ none => by cases none
  obtain ⟨k, machine, state, -⟩ := (settles sampleAnswers sampleAnswers ⟨[]⟩ ⟨[]⟩ none none
    (anonymous _) (anonymous _)).yields
  have kept : (perform sampleAnswers (.receive none (.start (aliceStart
      (.conversation "$q")).start)) (sampleBegin.run sampleReturn).verification
        ⟨[]⟩).verification.machine = some (bobStart (.conversation "$q")) := by
    decide +kernel
  obtain rfl := Option.some.inj (kept.symm.trans machine)
  cases state

end

end DeviceVerification.Peers
