import DeviceVerification.Proofs.Service.Split
import DeviceVerification.Proofs.Verification.Speech

/-!
# Own steps that come back

Everything that a verification sends into its room comes back to its follower. What was sent after
the history was read is only heard, and does nothing. Before that, a verification gets no further
than to its own start: of all its steps of a run, this one alone can be found in the history
(`own_steps_are_echoes`). Where it is, the run is lost although its machine is at hand, and the
verification ends (`own_start_read_back`).
-/

namespace DeviceVerification

open Verification (Operation SameTerms)

/-- An event that was handed over is an own step of a run from the history, to which the run is
lost. -/
def Handing.Loses (h : Handing) (reader : Identity) : Prop :=
  ∃ step, h.operation? reader = some (.replay step) ∧ Verification.Progress.isRunStep step = true

namespace Reading

open Verification Verification.Progress

variable {v : Verification} {keys : KeySource} {f : Follower} {s s' : Reading}
  {l : List Happening} {a : Answers} {op? : Option Operation} {step : Step}

theorem stepOf?_eventOf (v : Verification) (roomId eventId : String) (timestamp : UInt64)
    (step : Step) :
    stepOf? v.own.user v.transaction.id (eventOf v roomId eventId timestamp step) = some step := by
  simp [stepOf?, eventOf]

theorem mem_stepsOf_of_deliveries {effects : List Effect} {roomId : String}
    (h : (roomId, step) ∈ deliveries effects) : step ∈ Peers.stepsOf effects := by
  obtain ⟨effect, mem, delivered⟩ := List.mem_filterMap.1 h
  refine List.mem_filterMap.2 ⟨effect, mem, ?_⟩
  split at delivered
  · obtain ⟨-, rfl⟩ : _ ∧ _ := by simpa using delivered
    rfl
  · cases delivered

/-- A step that our own device sent, and that starts its run if it was early. -/
structure Ours (own : Identity) (early : Prop) (step : Step) : Prop where
  device : ¬NamesOther own step
  starts : early → Starts step

theorem Ours.mono {own : Identity} {early early' : Prop} (h : Ours own early step)
    (earlier : early' → early) : Ours own early' step := ⟨h.device, fun e => h.starts (earlier e)⟩

/-- Until its history is read, a verification sends no step of a run but its start, and what it
sends later is not in that history. -/
structure Sends (v : Verification) (s : Reading) : Prop where
  terms : v.SameTerms s.verification
  unanswered : s.follower.phase = .opening → Unanswered s.verification
  outbox : ∀ i ∈ s.outbox, Ours v.own (s.follower.phase = .opening) i.2
  posted : ∀ e ∈ s.posted, ∃ step, stepOf? v.own.user v.transaction.id e = some step ∧
    Ours v.own
      (s.follower.phase = .opening ∨ ∃ entry ∈ s.history, entry.eventId = e.eventId) step

namespace Sends

/-- What goes on around a follower sends nothing. -/
theorem keep (h : Sends v s) (verification : s'.verification = s.verification)
    (phase : s'.follower.phase = s.follower.phase) (history : s'.history = s.history)
    (outbox : s'.outbox = s.outbox) (posted : s'.posted = s.posted) : Sends v s' where
  terms := by
    rw [verification]
    exact h.terms
  unanswered := by
    rw [phase, verification]
    exact h.unanswered
  outbox := by
    rw [outbox, phase]
    exact h.outbox
  posted := by
    rw [posted, phase, history]
    exact h.posted

/-- An operation sends steps of our own device; before the history is read, it is an action. -/
theorem performs (h : Sends v s)
    (early : s.follower.phase = .opening → ∀ op ∈ op?, op.isLocal = true) :
    Sends v (s.performs a op?) := by
  cases op? with
  | none => exact h
  | some op =>
    refine ⟨h.terms.trans (sameTerms_perform a op _ _), ?_, ?_, h.posted⟩
    · intro opening
      exact (unanswered_perform a s.keys (early opening op rfl) (h.unanswered opening)).1
    · intro i mem
      rcases List.mem_append.1 mem with old | new
      · exact h.outbox i old
      · have sent := mem_stepsOf_of_deliveries new
        constructor
        · apply not_namesOther_iff.2
          intro device named
          have own := (speaks_perform a op s.verification s.keys).names_own sent named
          rwa [h.terms.own] at own
        · intro opening
          have unanswered :=
            unanswered_perform a s.keys (early opening op rfl) (h.unanswered opening)
          exact unanswered.2 i.2 sent

/-- What is in the history when it is read was sent before. -/
theorem advance (h : Sends v s) {next : Follower} (opened : next.phase ≠ .opening) :
    Sends v (s.advance a next) where
  terms := h.terms
  unanswered opening := absurd opening opened
  outbox i mem := (h.outbox i mem).mono fun opening => absurd opening opened
  posted e mem := by
    obtain ⟨step, own, ours⟩ := h.posted e mem
    refine ⟨step, own, ours.mono ?_⟩
    rintro (opening | ⟨entry, there, same⟩)
    · exact absurd opening opened
    · by_cases opening : s.follower.phase = .opening
      · exact .inl opening
      · exact .inr ⟨entry, remembered_eq opening ▸ there, same⟩

/-- A step that is sent later gets an id that is new to the history. -/
theorem post (h : Sends v s) (sane : s.Sane) {eventId : String}
    (fresh : ¬s.timelines.Knows eventId) (timestamp : UInt64) :
    Sends v (s.post eventId timestamp) := by
  unfold Reading.post
  split
  · exact h
  · rename_i roomId step rest waiting
    have ours := h.outbox (roomId, step) (waiting ▸ List.mem_cons_self)
    refine ⟨h.terms, h.unanswered, fun i mem => ?_, fun e mem => ?_⟩
    · exact h.outbox i (waiting ▸ List.mem_cons_of_mem _ mem)
    · rcases List.mem_append.1 mem with old | new
      · exact h.posted e old
      · obtain rfl := List.mem_singleton.1 new
        refine ⟨step, ?_, ours.mono ?_⟩
        · rw [← h.terms.own, ← h.terms.transaction]
          exact stepOf?_eventOf _ _ _ _ _
        · rintro (opening | ⟨entry, there, same⟩)
          · exact opening
          · have stored := Timelines.mem_entries_of_mem_since (sane.recalled.subset there)
            have known := Timelines.knows_of_mem_entries stored
            rw [same] at known
            exact absurd known fresh

theorem after (h : Sends v s) (sane : s.Sane) (x : Happening) (allowed : s.Allows x) :
    Sends v (s.after x) := by
  cases x with
  | subscribe | append | pend | decrypt => exact h.keep rfl rfl rfl rfl rfl
  | broadcast e =>
    show Sends v (s.broadcast e)
    unfold Reading.broadcast
    split <;> exact h.keep rfl rfl rfl rfl rfl
  | act op a =>
    have only : ∀ op' ∈ some op, op'.isLocal = true := fun op' mem => Option.some.inj mem ▸ allowed
    exact h.performs fun _ => only
  | post eventId timestamp => exact h.post sane allowed timestamp
  | read a =>
    show Sends v (s.read a)
    cases move : s.follower.move? s.timelines s.verification with
    | none =>
      rw [read_wait a move]
      exact h
    | some m =>
      cases m with
      | finish =>
        rw [read_finish a move]
        exact h.keep rfl rfl rfl rfl rfl
      | go next op? =>
        rw [read_go a move]
        have opened := (Follower.moves_of_move? move).same.2.2
        exact (h.advance opened).performs fun opening => absurd opening opened

end Sends

/-! ## Runs that are lost -/

/-- Where a run was lost, an event that was handed over lost it. -/
def Blamed (s : Reading) : Prop :=
  s.verification.sasLost = true → ∃ h ∈ s.handed, h.Loses s.follower.reader

namespace Blamed

/-- What is no step of a run from the history loses no run. -/
theorem keep (h : s.Blamed) (reader : s'.follower.reader = s.follower.reader)
    (handed : s.handed ⊆ s'.handed)
    (kept : s'.verification.sasLost = s.verification.sasLost) : s'.Blamed := by
  intro lost
  rw [kept] at lost
  obtain ⟨h, mem, loses⟩ := h lost
  exact ⟨h, handed mem, reader ▸ loses⟩

theorem go (h : s.Blamed) {next : Follower} {item? : Option (EventSource × RoomEvent)}
    (given : s.follower.handing? s.timelines s.verification = item?)
    (moves : s.follower.Moves s.timelines s.verification (.go next op?) item?) :
    ((s.advance a next).performs a op?).Blamed := by
  have reader : ((s.advance a next).performs a op?).follower.reader = s.follower.reader := by
    rw [performs_follower]
    exact moves.same.1
  have handed : s.handed ⊆ ((s.advance a next).performs a op?).handed := by
    rw [performs_handed]
    exact List.subset_append_left _ _
  by_cases replays : ∃ step, op? = some (.replay step) ∧ isRunStep step = true
  · obtain ⟨step, rfl, run⟩ := replays
    generalize same : Follower.Move.go next (some (.replay step)) = move at moves
    cases moves with
    | opens | drops | skips | finishes | misses | leaves => cases same
    | @takes source e next' comes =>
      have named : some (.replay step) = operationOf s.follower.reader s.verification source e :=
        (Follower.Move.go.inj same).2
      intro _
      refine ⟨⟨source, e, s.verification, a⟩, ?_, step, ?_, run⟩
      · rw [performs_handed]
        refine List.mem_append_right _ ?_
        rw [Reading.handing?, given]
        exact List.mem_singleton.2 rfl
      · rw [reader]
        exact named.symm
  · refine h.keep reader handed ?_
    cases op? with
    | none => rfl
    | some op =>
      refine sasLost_perform a _ _ ?_
      rintro step rfl
      rw [← Bool.not_eq_true]
      exact fun run => replays ⟨step, rfl, run⟩

theorem after (h : s.Blamed) (x : Happening) (allowed : s.Allows x) : (s.after x).Blamed := by
  have concern := s.concerns_after x
  generalize s.after x = s' at concern
  cases concern with
  | beside same =>
    refine h.keep same.reader ?_ (congrArg sasLost same.verification)
    rw [same.handed]
    exact List.Subset.refl _
  | @acts op a =>
    have isLocal : op.isLocal = true := allowed
    refine h.keep rfl (List.Subset.refl _) (sasLost_perform a _ _ ?_)
    rintro step rfl
    cases isLocal
  | moves given moves => exact h.go given moves

end Blamed

namespace Leads

/-- A verification that nobody acted on yet sends only steps of its own device from then on, and its
start alone before the history is read. -/
theorem sends (leads : (begin v keys f).Leads l s) (fresh : v.machine = none) : Sends v s := by
  have both : s.Sane ∧ Sends v s := by
    refine leads.induction (P := fun s => s.Sane ∧ Sends v s) ⟨sane_begin v keys f, ?_⟩ ?_
    · refine ⟨.refl v, fun _ m machine => ?_, nofun, nofun⟩
      cases fresh.symm.trans machine
    · intro s x _ both allowed
      exact ⟨both.1.after x allowed, both.2.after both.1 x allowed⟩
  exact both.2

/-- What was handed over from the history is in the history that was read. -/
theorem exists_entry (leads : (begin v keys f).Leads l s) {h : Handing} (mem : h ∈ s.handed)
    (history : h.source = .history) :
    ∃ entry ∈ s.history, s.timelines.event? entry = some h.event := by
  have due : (h.source, h.event) ∈ s.due :=
    firsts_subset itemId (leads.handed_prefix.subset (List.mem_map_of_mem mem))
  rw [history, Reading.due, offers] at due
  rcases List.mem_append.1 due with found | heard
  · obtain ⟨e, mem, same⟩ := List.mem_map.1 found
    obtain rfl : e = h.event := congrArg Prod.snd same
    exact List.mem_filterMap.1 (List.mem_of_mem_filter mem)
  · obtain ⟨e, -, same⟩ := List.mem_map.1 heard
    cases congrArg Prod.fst same

/-- A run is lost to an own step of a run that was handed over. -/
theorem lost (leads : (begin v keys f).Leads l s) (kept : v.sasLost = false)
    (lost : s.verification.sasLost = true) : ∃ h ∈ s.handed, h.Loses f.reader := by
  have blamed : s.Blamed := by
    refine leads.induction (P := Blamed) ?_ ?_
    · exact fun lost => absurd (kept.symm.trans lost) (by simp)
    · intro s x _ blamed allowed
      exact blamed.after x allowed
  rw [← show s.follower.reader = f.reader from leads.steady.reader]
  exact blamed lost

/-- A verification that is undefined lost a run. -/
theorem lost_of_undefined (leads : (begin v keys f).Leads l s) (defined : v.state ≠ .undefined)
    (undefined : s.verification.state = .undefined) : s.verification.sasLost = true := by
  refine leads.verification_induction
    (P := fun v => v.state = .undefined → v.sasLost = true) ?_ ?_ undefined
  · exact fun undefined => absurd undefined defined
  · exact fun v op a keys before => Verification.lost_of_undefined a op keys before

/-- What was handed over found a verification of the same request. -/
theorem terms_before (leads : (begin v keys f).Leads l s) :
    ∀ h ∈ s.handed, v.SameTerms h.before := by
  refine leads.forall_handed rfl ?_
  intro s a steady _ h handing
  obtain ⟨i, -, rfl⟩ := Option.map_eq_some_iff.1 handing
  exact steady.terms

/-- A step of a run that this verification sent and that comes back does nothing, but for a start
from the history. -/
theorem echo (leads : (begin v keys f).Leads l s) (fresh : v.machine = none)
    (genuine : ∀ entry ∈ s.history, ∀ e ∈ s.timelines.event? entry, e.eventId = entry.eventId)
    {h : Handing} (mem : h ∈ s.handed) (posted : h.event ∈ s.posted)
    (carries : stepOf? v.own.user v.transaction.id h.event = some step)
    (run : isRunStep step = true) :
    h.operation? v.own = none ∨ h.source = .history ∧ step.kind = .start := by
  obtain ⟨step', carries', ours⟩ := (leads.sends fresh).posted h.event posted
  obtain rfl : step = step' := Option.some.inj (carries.symm.trans carries')
  have here : stepOf? v.own.user h.before.transaction.id h.event = some step :=
    (leads.terms_before h mem).transaction ▸ carries
  have does : h.operation? v.own = _ := operationOf_of_own here ours.device
  cases source : h.source with
  | live =>
    rw [source] at does
    exact .inl does
  | history =>
    obtain ⟨entry, there, resolved⟩ := leads.exists_entry mem source
    have id : entry.eventId = h.event.eventId := (genuine entry there h.event resolved).symm
    exact .inr ⟨rfl, ours.starts (.inr ⟨entry, there, id⟩) run⟩

end Leads

/-- **Own steps of a run come back as echoes.** Whatever the user does, and whenever the follower
reads and hears: a step of a run that this verification sent and that comes back does nothing, but
for its start where that was in the history already when the follower read it. So a run is only
lost, and the verification undefined, for an own step that somebody else on our device sent, or for
such a start. -/
theorem own_steps_are_echoes {own : Identity} {settings : Sas.Settings} {route : Route}
    {request : Request} (reader : f.reader = own)
    (leads : (begin (.ofRequest own settings route request) keys f).Leads l s)
    (genuine : ∀ entry ∈ s.history, ∀ e ∈ s.timelines.event? entry, e.eventId = entry.eventId) :
    (∀ h ∈ s.handed, h.event ∈ s.posted → ∀ step,
        stepOf? own.user request.transaction.id h.event = some step → isRunStep step = true →
          h.operation? own = none ∨ h.source = .history ∧ step.kind = .start) ∧
      (s.verification.sasLost = true ∨ s.verification.state = .undefined →
        ∃ h ∈ s.handed, h.Loses own ∧ (h.event ∈ s.posted → h.source = .history ∧
          ∃ step, stepOf? own.user request.transaction.id h.event = some step ∧
            step.kind = .start)) := by
  refine ⟨fun h mem posted step carries run => leads.echo rfl genuine mem posted carries run, ?_⟩
  intro ended
  have lost : s.verification.sasLost = true := by
    rcases ended with lost | undefined
    · exact lost
    · refine leads.lost_of_undefined ?_ undefined
      unfold Verification.ofRequest
      split <;> simp
  obtain ⟨h, mem, loses⟩ := leads.lost rfl lost
  rw [reader] at loses
  refine ⟨h, mem, loses, ?_⟩
  intro posted
  obtain ⟨step, replays, run⟩ := loses
  have carries := stepOf?_of_replay replays
  rw [(leads.terms_before h mem).transaction] at carries
  rcases leads.echo rfl genuine mem posted carries run with nothing | ⟨history, start⟩
  · cases nothing.symm.trans replays
  · exact ⟨history, step, carries, start⟩

/-! ### Bob starts -/

section

open Verification (sampleAnswers)

/-- Bob's start. -/
def sampleOwnStart : Step := .start (Sas.Settings.default.startContent "BOB")

/-- Bob says that he is ready, and starts. -/
def sampleActs : List Happening :=
  [.act .ready sampleAnswers, .post "$r" 0, .act (.start .sas) sampleAnswers, .post "$s" 0]

/-- Bob acts once he has read the history, and hears himself. -/
def sampleHeard : List Happening :=
  [.append sampleAsks, .subscribe] ++ List.replicate 3 (.read sampleAnswers) ++ sampleActs ++
    [.broadcast (sampleStep "$r" "@bob:x" (.ready ⟨"BOB", [.sas]⟩)),
      .broadcast (sampleStep "$s" "@bob:x" sampleOwnStart)] ++
    List.replicate 2 (.read sampleAnswers)

/-- Bob's start comes back to him and does nothing. -/
theorem own_steps_are_echoes_sample :
    ∃ h ∈ (sampleBegin.run sampleHeard).handed,
      h.event = sampleStep "$s" "@bob:x" sampleOwnStart ∧
      h.event ∈ (sampleBegin.run sampleHeard).posted ∧ h.operation? sampleReader = none := by
  have leads : sampleBegin.Leads sampleHeard (sampleBegin.run sampleHeard) :=
    ⟨by decide +kernel, rfl⟩
  have reader : (sampleFollower sampleReader).reader = sampleReader := rfl
  obtain ⟨echoes, -⟩ := own_steps_are_echoes reader leads (by decide +kernel)
  have found : ∃ h ∈ (sampleBegin.run sampleHeard).handed, h.source = .live ∧
      h.event = sampleStep "$s" "@bob:x" sampleOwnStart ∧
      h.event ∈ (sampleBegin.run sampleHeard).posted := by decide +kernel
  obtain ⟨h, mem, live, event, posted⟩ := found
  refine ⟨h, mem, event, posted, ?_⟩
  have carries : stepOf? sampleReader.user "$q" h.event = some sampleOwnStart := by
    rw [event]
    decide +kernel
  rcases echoes h mem posted sampleOwnStart carries rfl with nothing | ⟨history, -⟩
  · exact nothing
  · cases live.symm.trans history

/-- Bob acts on a request that he was told of, and reads the history after that. -/
def sampleEager : List Happening :=
  [.append sampleAsks] ++ sampleActs ++ [.subscribe] ++ List.replicate 5 (.read sampleAnswers)

/-- **An own start in the history.** Bob says that he is ready and starts before his follower reads
the history. There he finds his own start, with nobody else having said anything; he takes the run
for lost that is his own and goes on, and ends undefined. -/
theorem own_start_read_back :
    ∃ s, sampleBegin.Leads sampleEager s ∧
      (sampleBegin.run (sampleEager.take 6)).verification.state = .start .sas "BOB" 1 ∧
      (∀ h ∈ s.handed, h.event = sampleAsks ∨ h.event ∈ s.posted) ∧
      (∃ h ∈ s.handed, h.event ∈ s.posted ∧
        h.operation? sampleReader = some (.replay sampleOwnStart)) ∧
      s.verification.state = .undefined :=
  ⟨sampleBegin.run sampleEager, ⟨by decide +kernel, rfl⟩, by decide +kernel, by decide +kernel,
    by decide +kernel, by decide +kernel⟩

end

end Reading

end DeviceVerification
