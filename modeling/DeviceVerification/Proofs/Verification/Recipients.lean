import Mathlib.Data.List.Induction
import Mathlib.Data.List.Nodup
import DeviceVerification.Proofs.Verification.Delivery
import DeviceVerification.Proofs.Verification.Pinning

/-!
# Who is told what

Somebody who asks several devices of a user talks to all of them until one answers, and to this one
alone from then on. An operation sends everything along the route that it finds, except for the one
that chooses a device: that one tells the other devices, and what it says after that goes to the
chosen one (`Transition.sends`). A run chooses at most once, so its log falls into what everybody
was told, the choice, and what the chosen device was told (`choice_decides_who_is_told`). Nothing in
this asks whether a message was delivered.
-/

namespace DeviceVerification.Verification

open Progress

variable {a : Answers} {v v' : Verification} {source : KeySource} {op : Operation} {o : Outcome}
  {turn : Sas.Turn} {effects : List Effect} {content : StartContent} {route : Route}
  {device : String}

/-! ## The messages of an operation -/

/-- Every message goes along one route. -/
def Along (route : Route) (effects : List Effect) : Prop :=
  ∀ e ∈ effects, e.isMessage = true → ∃ step failure, e = .send route step failure

theorem along_nil : Along route [] := nofun

theorem along_send (step : Step) (failure : Option TransportError) :
    Along route [.send route step failure] := by
  intro e mem _
  obtain rfl := List.mem_singleton.1 mem
  exact ⟨_, _, rfl⟩

theorem along_trust (keys : List VerifiableKey) (outcome : TrustOutcome) :
    Along route [.trust keys outcome] := by
  intro e mem message
  obtain rfl := List.mem_singleton.1 mem
  cases message

theorem Along.append {effects' : List Effect} (h : Along route effects)
    (h' : Along route effects') : Along route (effects ++ effects') := by
  intro e mem message
  exact (List.mem_append.1 mem).elim (h e · message) (h' e · message)

theorem Handed.along {steps : List Step} (h : Handed route steps effects) :
    Along route effects := by
  induction h with
  | nil => exact along_nil
  | cons head _ ih =>
    obtain ⟨failure, rfl⟩ := head
    exact (along_send _ failure).append ih

theorem Followed.along (h : Followed a v turn v' effects) : Along v.route effects := by
  cases h with
  | proceed handed => exact handed.along
  | recorded handed | refused handed =>
    exact handed.along.append ((along_trust _ _).append (along_send _ _))
  | pending handed => exact handed.along.append (along_trust _ _)
  | cancelled handed => exact handed.along.append (along_send _ _)

/-- A start whose algorithms do not match is refused, and nothing else is said to a start. -/
theorem Adopted.refuses (h : Adopted v content v' effects) : ∀ e ∈ effects, ∃ failure,
    e = .send v.route (.cancel Sas.Machine.noCommonAlgorithms) failure := by
  cases h with
  | stranger | adopted => exact nofun
  | @unagreed _ _ failure _ made =>
    intro e mem
    obtain rfl := List.mem_singleton.1 mem
    unfold Sas.Machine.theirStart at made
    split at made
    · cases made
    · cases made
      exact ⟨failure, rfl⟩

theorem Adopted.along (h : Adopted v content v' effects) : Along v.route effects := by
  intro e mem _
  obtain ⟨failure, rfl⟩ := h.refuses e mem
  exact ⟨_, failure, rfl⟩

/-- What an operation sends, and what it has to do with the device of the counterpart. -/
inductive Sends (v : Verification) (o : Outcome) : Prop where
  | along (along : Along v.route o.effects) (same : o.verification.theirDevice = v.theirDevice)
  /-- The device is chosen, the other ones are told, and its start may be refused. -/
  | chooses {device : String} {choice rest : List Effect}
      (unanswered : v.theirDevice = none ∨ v.state = .ownRequest)
      (known : o.verification.theirDevice = some device) (effects : o.effects = choice ++ rest)
      (dismissed : Dismissed (v.route.others device) choice)
      (refuses : ∀ e ∈ rest, ∃ failure, e = .send (v.route.narrow device)
        (.cancel Sas.Machine.noCommonAlgorithms) failure)

theorem Transition.sends (t : Transition a v source op o) : Sends v o := by
  cases t with
  | ended | refused | ignored | keptStart | replayedLate | unsettled | doneFirst | replayedDone
  | replayedRun => exact .along along_nil rfl
  | abort | yield | answeredElsewhere | cancelledByThem | doneLast | replayedReady
  | replayedCancel | settled => exact .along along_nil (enter_theirDevice _ _)
  | cancels | ready | start => exact .along (along_send _ _) (enter_theirDevice _ _)
  | turn state machine feeds change followed =>
    exact .along followed.along followed.theirDevice_eq
  | lostStart hears state pending higher adopted =>
    exact .along adopted.along adopted.theirDevice_eq
  | receivedReady hears state some dismissed =>
    exact .chooses (.inr state) (enter_theirDevice _ _) (List.append_nil _).symm dismissed nofun
  | receivedStart hears state supported met adopted =>
    cases met with
    | known => exact .along adopted.along adopted.theirDevice_eq
    | chosen unknown dismissed =>
      exact .chooses (.inl unknown) adopted.theirDevice_eq rfl dismissed adopted.refuses

theorem sends_perform (a : Answers) (op : Operation) (v : Verification) (source : KeySource) :
    Sends v (perform a op v source) := by
  obtain ⟨-, same⟩ | ⟨-, t⟩ := perform_cases a op v source
  · rw [same]
    exact .along along_nil rfl
  · cases t.sends with
    | along along same =>
      rw [counted_route] at along
      exact .along along (same.trans (counted_theirDevice v op))
    | chooses unanswered known effects dismissed refuses =>
      rw [counted_theirDevice, counted_state] at unanswered
      rw [counted_route] at dismissed refuses
      exact .chooses unanswered known effects dismissed refuses

/-! ## Addressees -/

/-- The message of an effect on a verification, as the device of the verification sends it. -/
def message? (v : Verification) (effect : Effect) : Option Outgoing :=
  (posting? 0 v effect).map (·.message)

/-- The steps that messages address to a device, as often as they name it. -/
def addressed (device : String) (messages : List Outgoing) : List Step :=
  messages.flatMap fun
    | .direct _ devices ⟨_, .step step⟩ => List.replicate (devices.count device) step
    | _ => []

namespace Record

variable {e : Record}

/-- The messages of an operation. -/
def messages (e : Record) : List Outgoing := e.outcome.effects.filterMap (message? e.before)

/-- All that an operation sends goes to these devices of the counterpart. -/
def GoesTo (e : Record) (devices : List String) : Prop :=
  ∀ m ∈ e.messages, ∃ step,
    m = .direct e.before.theirUser devices ⟨e.before.transaction.id, .step step⟩

/-- An operation changes the device of the counterpart to this one. -/
def Chooses (e : Record) (device : String) : Prop :=
  e.before.theirDevice ≠ some device ∧ e.outcome.verification.theirDevice = some device

/-- An operation chooses a device among the ones that were asked: all others are told once, and told
nothing else, and the chosen device is not told that it was another one. -/
structure Selects (e : Record) (devices : List String) (device : String) : Prop where
  chooses : e.Chooses device
  others : ∀ other, other ≠ device →
    addressed other e.messages = if other ∈ devices then [dismissal] else []
  spared : ∀ reason, .cancel reason ∈ addressed device e.messages → reason.code ≠ .accepted

theorem goesTo_of_along {devices : List String}
    (along : Along (.devices devices) e.outcome.effects) :
    e.GoesTo devices := by
  intro m mem
  obtain ⟨effect, inside, message⟩ := List.mem_filterMap.1 mem
  cases effect with
  | send route step failure =>
    obtain ⟨_, _, same⟩ := along _ inside rfl
    cases same
    exact ⟨step, (Option.some.inj message).symm⟩
  | dismiss =>
    obtain ⟨_, _, same⟩ := along _ inside rfl
    cases same
  | trust => cases message

end Record

theorem addressed_append (device : String) (messages messages' : List Outgoing) :
    addressed device (messages ++ messages') =
      addressed device messages ++ addressed device messages' :=
  List.flatMap_append

/-- Telling the other devices reaches every one of them, and nobody else. -/
theorem Dismissed.addressed_eq {devices : List String} {choice : List Effect}
    (distinct : devices.Nodup) (h : Dismissed (Route.others (.devices devices) device) choice)
    (v : Verification) (other : String) :
    addressed other (choice.filterMap (message? v)) =
      if other ∈ devices ∧ other ≠ device then [dismissal] else [] := by
  have others : Route.others (.devices devices) device = devices.filter (· ≠ device) := rfl
  rw [others] at h
  have mem : other ∈ devices.filter (· ≠ device) ↔ other ∈ devices ∧ other ≠ device := by
    rw [List.mem_filter, decide_eq_true_iff]
  cases h with
  | none nobody =>
    rw [nobody] at mem
    rw [if_neg fun inside => List.not_mem_nil (mem.2 inside)]
    rfl
  | @told failure =>
    show List.replicate ((devices.filter (· ≠ device)).count other) dismissal ++ [] = _
    rw [List.append_nil, List.Nodup.count (List.Nodup.filter _ distinct)]
    simp only [mem]
    split <;> rfl

/-- A refusal goes to the device that is refused. -/
theorem addressed_refusals {rest : List Effect}
    (refuses : ∀ e ∈ rest, ∃ failure, e = .send (.devices [device])
      (.cancel Sas.Machine.noCommonAlgorithms) failure) (v : Verification) (other : String) :
    ∀ step ∈ addressed other (rest.filterMap (message? v)),
      other = device ∧ step = .cancel Sas.Machine.noCommonAlgorithms := by
  intro step mem
  obtain ⟨m, inside, mem⟩ := List.mem_flatMap.1 mem
  obtain ⟨effect, sent, message⟩ := List.mem_filterMap.1 inside
  obtain ⟨failure, rfl⟩ := refuses effect sent
  obtain rfl := Option.some.inj message
  obtain ⟨named, rfl⟩ := List.mem_replicate.1 mem
  refine ⟨?_, rfl⟩
  by_contra ne
  exact named (List.count_eq_zero_of_not_mem (by simpa using ne))

/-- Choosing a device tells the other ones. -/
theorem Record.selects_of_choice {e : Record} {devices : List String} {choice rest : List Effect}
    (distinct : devices.Nodup) (chooses : e.Chooses device)
    (effects : e.outcome.effects = choice ++ rest)
    (dismissed : Dismissed (Route.others (.devices devices) device) choice)
    (refuses : ∀ e ∈ rest, ∃ failure, e = .send (.devices [device])
      (.cancel Sas.Machine.noCommonAlgorithms) failure) : e.Selects devices device where
  chooses := chooses
  others other ne := by
    have silent : addressed other (rest.filterMap (message? e.before)) = [] :=
      List.eq_nil_iff_forall_not_mem.2 fun step mem =>
        ne (addressed_refusals refuses e.before other step mem).1
    rw [messages, effects, List.filterMap_append, addressed_append, silent, List.append_nil,
      dismissed.addressed_eq distinct]
    simp only [ne, ne_eq, not_false_eq_true, and_true]
  spared reason mem := by
    rw [messages, effects, List.filterMap_append, addressed_append,
      dismissed.addressed_eq distinct, if_neg fun inside => inside.2 rfl, List.nil_append] at mem
    cases (addressed_refusals refuses e.before device _ mem).2
    exact nofun

/-! ## The log of a run -/

/-- The log of a run in which a device was chosen: what everybody was told, the choice, and what the
chosen device was told. -/
structure Decides (devices : List String) (log : List Record) (device : String)
    (before : List Record) (e : Record) (after : List Record) : Prop where
  split : log = before ++ e :: after
  asked : ∀ e' ∈ before, e'.GoesTo devices
  selects : e.Selects devices device
  narrowed : ∀ e' ∈ after, e'.GoesTo [device]
  once : ∀ e' ∈ before ++ after, ∀ other, ¬e'.Chooses other

/-- How far the devices that were asked have come to be one. -/
inductive Narrows (devices : List String) (r : Run) : Prop where
  | asking (unknown : r.verification.theirDevice = none)
      (route : r.verification.route = .devices devices)
      (asked : ∀ e ∈ r.log, e.GoesTo devices ∧ ∀ device, ¬e.Chooses device)
  | decided {device : String} {before after : List Record} {e : Record}
      (pinned : r.verification.Pinned device (.devices [device]))
      (decides : Decides devices r.log device before e after)

variable {devices : List String} {r : Run}

/-- An operation that finds a device leaves it, and talks to it alone. -/
theorem Record.keeps_of_pinned {e : Record} (pinned : e.before.Pinned device (.devices [device]))
    (same : e.outcome = perform e.answers e.op e.before source) :
    e.GoesTo [device] ∧ ∀ other, ¬e.Chooses other := by
  have kept := pinned.perform e.answers e.op source
  rw [← same] at kept
  constructor
  · have sends := sends_perform e.answers e.op e.before source
    rw [← same] at sends
    cases sends with
    | along along =>
      rw [pinned.route] at along
      exact goesTo_of_along along
    | chooses unanswered =>
      rcases unanswered with unknown | state
      · cases pinned.known.symm.trans unknown
      · exact absurd state pinned.answered
  · rintro other ⟨before, after⟩
    exact before (pinned.known.trans (kept.known.symm.trans after))

theorem Narrows.step (distinct : devices.Nodup) (h : Narrows devices r)
    (event : Operation × Answers) : Narrows devices (r.step event) := by
  obtain ⟨op, a⟩ := event
  let e : Record := ⟨r.verification, op, a, perform a op r.verification r.source⟩
  have log : (r.step (op, a)).log = r.log ++ [e] := rfl
  cases h with
  | @decided device before after first pinned decides =>
    obtain ⟨goes, keeps⟩ := Record.keeps_of_pinned (e := e) pinned rfl
    refine .decided (pinned.perform a op r.source)
      (⟨?_, decides.asked, decides.selects, ?_, ?_⟩ : Decides _ _ _ before first (after ++ [e]))
    · rw [log, decides.split, List.append_assoc, List.cons_append]
    · exact List.forall_mem_append.2 ⟨decides.narrowed, List.forall_mem_singleton.2 goes⟩
    · rw [← List.append_assoc]
      exact List.forall_mem_append.2 ⟨decides.once, List.forall_mem_singleton.2 keeps⟩
  | asking unknown route asked =>
    have pins := pins_perform a op r.verification r.source
    cases sends_perform a op r.verification r.source with
    | along along same =>
      rw [route] at along
      have still := same.trans unknown
      refine .asking still ?_ ?_
      · cases pins with
        | keeps _ kept => exact kept.trans route
        | fixes _ _ _ _ known => cases still.symm.trans known
      · rw [log]
        refine List.forall_mem_append.2 ⟨asked, List.forall_mem_singleton.2
          ⟨Record.goesTo_of_along along, ?_⟩⟩
        rintro device ⟨-, after⟩
        cases still.symm.trans after
    | @chooses device choice rest unanswered known effects dismissed refuses =>
      rw [route] at dismissed refuses
      cases pins with
      | keeps kept => cases known.symm.trans (kept.trans unknown)
      | fixes heard near named unanswered fixed narrowed answered =>
        obtain rfl := Option.some.inj (fixed.symm.trans known)
        rw [route] at narrowed
        have chooses : e.Chooses _ := ⟨by rw [unknown]; exact nofun, known⟩
        refine .decided ⟨known, narrowed, answered⟩
          (⟨log, fun e' mem => (asked e' mem).1,
            Record.selects_of_choice distinct chooses effects dismissed refuses,
            List.forall_mem_nil _, ?_⟩ :
            Decides _ _ _ r.log e [])
        rw [List.append_nil]
        exact fun e' mem => (asked e' mem).2

theorem Narrows.steps (distinct : devices.Nodup) (h : Narrows devices r)
    (events : List (Operation × Answers)) : Narrows devices (r.steps events) := by
  unfold Run.steps
  induction events generalizing r with
  | nil => exact h
  | cons event events ih => exact ih (h.step distinct event)

/-- A run is about one request from beginning to end. -/
theorem Run.sameTerms (v : Verification) (source : KeySource)
    (events : List (Operation × Answers)) :
    SameTerms v ((begin v source).steps events).verification ∧
      ∀ e ∈ ((begin v source).steps events).log, SameTerms v e.before := by
  induction events using List.reverseRecOn with
  | nil => exact ⟨.refl v, List.forall_mem_nil _⟩
  | append_singleton events event ih =>
    rw [steps_concat]
    exact ⟨ih.1.trans (sameTerms_perform _ _ _ _),
      List.forall_mem_append.2 ⟨ih.2, List.forall_mem_singleton.2 ih.1⟩⟩

/-- **A choice decides who is told what.** Whatever happens to a verification that we asked
different devices of a user for, and whichever messages are delivered: every step goes to all of
these devices until one is chosen, if one ever is. The operation that chooses one tells every other
one of them exactly once that it was another device, and the chosen one never. No device is chosen a
second time, and every step after the choice goes to the chosen device alone. -/
theorem choice_decides_who_is_told (s : Service) (request : RequestContent)
    (theirUser transactionId : String) {devices : List String} (distinct : devices.Nodup)
    (source : KeySource) (events : List (Operation × Answers)) :
    let r := (Run.begin (Asker.verification (.us devices) s request theirUser transactionId)
      source).steps events
    (∀ e ∈ r.log, e.before.theirUser = theirUser ∧ e.before.transaction.id = transactionId) ∧
      ((∀ e ∈ r.log, e.GoesTo devices ∧ ∀ device, ¬e.Chooses device) ∨
        ∃ device before e after, Decides devices r.log device before e after) := by
  intro r
  refine ⟨fun e mem => ?_, ?_⟩
  · have terms := (Run.sameTerms _ _ _).2 e mem
    exact ⟨terms.theirUser, congrArg Transaction.id terms.transaction⟩
  · have start : Narrows devices (Run.begin (Asker.verification (.us devices) s request theirUser
        transactionId) source) := .asking rfl rfl (List.forall_mem_nil _)
    cases start.steps distinct events with
    | asking _ _ asked => exact .inl asked
    | decided _ decides => exact .inr ⟨_, _, _, _, decides⟩

/-- Alice's phone answers, we start, and no message is delivered. -/
def sampleNarrowed : Run :=
  (Run.begin (Asker.verification (.us ["ALICE", "PHONE"]) sampleService ⟨"BOB", [.sas], 0⟩
    "@alice:x" "tx") ⟨[]⟩).steps
    [(.receive (some "PHONE") (.ready ⟨"PHONE", [.sas]⟩), sampleLossy), (.start .sas, sampleLossy)]

theorem choice_decides_who_is_told_sample :
    ["ALICE", "PHONE"].Nodup ∧ (∃ e ∈ sampleNarrowed.log, e.Chooses "PHONE") ∧
      ∃ device before e after,
        Decides ["ALICE", "PHONE"] sampleNarrowed.log device before e after := by
  have distinct : ["ALICE", "PHONE"].Nodup := by decide
  have chooses : ∃ e ∈ sampleNarrowed.log, e.Chooses "PHONE" := by
    refine ⟨sampleNarrowed.log.head (by decide +kernel), List.head_mem _, ?_, ?_⟩ <;>
      decide +kernel
  refine ⟨distinct, chooses, ?_⟩
  obtain ⟨-, asked | decided⟩ := choice_decides_who_is_told sampleService ⟨"BOB", [.sas], 0⟩
    "@alice:x" "tx" distinct ⟨[]⟩
    [(.receive (some "PHONE") (.ready ⟨"PHONE", [.sas]⟩), sampleLossy), (.start .sas, sampleLossy)]
  · obtain ⟨e, mem, chosen⟩ := chooses
    exact absurd chosen ((asked e mem).2 "PHONE")
  · exact decided

end DeviceVerification.Verification
