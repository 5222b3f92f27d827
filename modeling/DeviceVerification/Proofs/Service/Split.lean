import DeviceVerification.Proofs.Service.Handover
import DeviceVerification.Proofs.Service.Meaning

/-!
# Where the history ends

What a follower reads from the history another one may hear live. For steps of the counterpart that
makes no difference; our own user's steps are restored in the history and skipped afterwards, unless
they name another device of ours. Where the first of them does so, two followers that nobody acts on
bring their verifications to the same end, wherever the history of each ended
(`history_and_live_agree`). A cancellation names no device: one that another device of ours sends on
its own ends the verification in the history and is taken for an echo afterwards
(`unnamed_cancel_splits`).
-/

namespace DeviceVerification

open Verification (Operation)

/-! ## Steps of our own user -/

/-- The first step of our own user on a request names another device. -/
def Introduced (reader : Identity) (eventId : String) (l : List RoomEvent) : Prop :=
  ∀ step ∈ l.findSome? (stepOf? reader.user eventId), NamesOther reader step

instance (reader : Identity) (eventId : String) (l : List RoomEvent) :
    Decidable (Introduced reader eventId l) :=
  inferInstanceAs (Decidable (∀ step ∈ l.findSome? (stepOf? reader.user eventId), _))

section

variable {reader : Identity} {v : Verification} {source source' : EventSource} {e : RoomEvent}
  {eventId : String} {step : Step} {l m : List RoomEvent}

theorem Introduced.of_append (h : Introduced reader eventId (l ++ m)) :
    Introduced reader eventId l := by
  intro step first
  refine h step ?_
  rw [List.findSome?_append, Option.mem_def.1 first]
  rfl

theorem Introduced.tail (h : Introduced reader eventId (e :: l))
    (other : stepOf? reader.user eventId e = none) : Introduced reader eventId l := by
  intro step first
  refine h step ?_
  rw [List.findSome?_cons, other]
  exact first

end

/-! ## What a sequence of events does -/

/-- A verification and its key source once an event was handed over. -/
def told (reader : Identity) (answers : RoomEvent → Answers) (p : Verification × KeySource)
    (i : EventSource × RoomEvent) : Verification × KeySource :=
  match operationOf reader p.1 i.1 i.2 with
  | none => p
  | some op =>
    let o := p.1.perform (answers i.2) op p.2
    (o.verification, o.source)

section

variable {reader : Identity} {answers : RoomEvent → Answers} {p : Verification × KeySource}
  {i : EventSource × RoomEvent} {op : Operation} {l l' : List (EventSource × RoomEvent)}

theorem told_eq (h : operationOf reader p.1 i.1 i.2 = some op) :
    told reader answers p i = ((p.1.perform (answers i.2) op p.2).verification,
      (p.1.perform (answers i.2) op p.2).source) := by
  unfold told
  rw [h]

theorem told_of_isSettled (settled : p.1.IsSettled) : told reader answers p i = p := by
  unfold told
  split
  · rfl
  · rename_i op _
    obtain ⟨reply, same⟩ := settled.perform_eq (answers i.2) op p.2
    rw [same]

theorem foldl_told_of_isSettled (settled : p.1.IsSettled) :
    l.foldl (told reader answers) p = p := by
  induction l with
  | nil => rfl
  | cons i rest ih =>
    rw [List.foldl_cons, told_of_isSettled settled]
    exact ih

theorem transaction_told : (told reader answers p i).1.transaction = p.1.transaction := by
  unfold told
  split
  · rfl
  · exact (Verification.sameTerms_perform _ _ _ _).transaction

/-- Two sequences of the same events do the same, wherever the events are from, as long as our other
devices name themselves. -/
theorem foldl_told_congr (same : l.map (·.2) = l'.map (·.2))
    (introduced : Introduced reader p.1.transaction.id (l.map (·.2))) :
    l.foldl (told reader answers) p = l'.foldl (told reader answers) p := by
  induction l generalizing l' p with
  | nil =>
    obtain rfl : l' = [] := by simpa using same
    rfl
  | cons i rest ih =>
    obtain ⟨source, e⟩ := i
    cases l' with
    | nil => cases same
    | cons i' rest' =>
      obtain ⟨source', e'⟩ := i'
      simp only [List.map_cons, List.cons.injEq] at same
      obtain ⟨rfl, same⟩ := same
      rw [List.foldl_cons, List.foldl_cons]
      cases own : stepOf? reader.user p.1.transaction.id e with
      | none =>
        have alike : told reader answers p (source, e) = told reader answers p (source', e) := by
          unfold told
          rw [operationOf_of_foreign own, operationOf_of_foreign own]
        rw [← alike]
        refine ih same ?_
        rw [transaction_told]
        exact introduced.tail own
      | some step =>
        have other : NamesOther reader step := introduced step (by simp [own])
        have yields : ∀ s, told reader answers p (s, e) =
            ((p.1.perform (answers e) .yieldToOtherDevice p.2).verification,
              (p.1.perform (answers e) .yieldToOtherDevice p.2).source) :=
          fun s => told_eq (operationOf_of_namesOther own other)
        have settled := Verification.isSettled_of_yield (answers e) p.1 p.2
        rw [yields source, yields source', foldl_told_of_isSettled settled,
          foldl_told_of_isSettled settled]

/-- Where our other devices name themselves, no run is lost. -/
theorem sasLost_foldl_told (introduced : Introduced reader p.1.transaction.id (l.map (·.2)))
    (kept : p.1.sasLost = false) : (l.foldl (told reader answers) p).1.sasLost = false := by
  induction l generalizing p with
  | nil => exact kept
  | cons i rest ih =>
    obtain ⟨source, e⟩ := i
    rw [List.foldl_cons]
    cases own : stepOf? reader.user p.1.transaction.id e with
    | none =>
      refine ih ?_ ?_
      · rw [transaction_told]
        exact introduced.tail own
      · unfold told
        split
        · exact kept
        · rename_i op does
          refine (Verification.sasLost_perform _ _ _ ?_).trans kept
          rintro step rfl
          cases own.symm.trans (stepOf?_of_replay does)
    | some step =>
      have other : NamesOther reader step := introduced step (by simp [own])
      rw [told_eq (operationOf_of_namesOther own other),
        foldl_told_of_isSettled (Verification.isSettled_of_yield (answers e) p.1 p.2)]
      refine (Verification.sasLost_perform _ _ _ ?_).trans kept
      rintro step ⟨⟩

end

namespace Reading

/-! ## Followers that nobody acts on -/

/-- Whether something that happens is an action on the verification. -/
def isAct : Happening → Bool
  | .act _ _ => true
  | _ => false

/-- Nobody acts on the verification. -/
def Quiet (l : List Happening) : Prop := ∀ x ∈ l, isAct x = false

instance (l : List Happening) : Decidable (Quiet l) :=
  inferInstanceAs (Decidable (∀ x ∈ l, isAct x = false))

/-- A follower has handed over what there is. -/
def HasHandled (s : Reading) : Prop := s.Rests ∧ ¬s.AwaitsDecryption

theorem hasHandled_of_following {s : Reading} (rests : s.Rests)
    (phase : s.follower.phase = .following) : s.HasHandled := by
  refine ⟨rests, ?_⟩
  rintro ⟨entry, rest, replaying, -⟩
  cases phase.symm.trans replaying

/-- The verification and its key source are what the events make of them that were handed over,
under some answers of the surroundings. -/
def IsTold (answers : RoomEvent → Answers) (p : Verification × KeySource) (s : Reading) : Prop :=
  (∀ h ∈ s.handed, h.answers = answers h.event) →
    Introduced s.follower.reader s.verification.transaction.id (s.handed.map (·.event)) →
      (s.verification, s.keys) =
        (s.handed.map (·.item)).foldl (told s.follower.reader answers) p

variable {answers : RoomEvent → Answers} {p : Verification × KeySource} {s s' : Reading}

/-- Events that are only on their way tell the verification nothing. -/
theorem IsTold.keep (h : s.IsTold answers p) (same : s.Beside s') : s'.IsTold answers p := by
  unfold IsTold
  rw [same.verification, same.keys, same.reader, same.handed]
  exact h

/-- A move of the follower tells the verification the event that it hands over. -/
theorem IsTold.go (h : s.IsTold answers p) (kept : p.1.sasLost = false)
    (terms : p.1.SameTerms s.verification) {a : Answers} {next : Follower}
    {op? : Option Operation} {item? : Option (EventSource × RoomEvent)}
    (given : s.follower.handing? s.timelines s.verification = item?)
    (moves : s.follower.Moves s.timelines s.verification (.go next op?) item?) :
    ((s.advance a next).performs a op?).IsTold answers p := by
  have transaction : ((s.advance a next).performs a op?).verification.transaction =
      s.verification.transaction := (sameTerms_performs (s.advance a next) a op?).transaction
  have handing : s.handing? a = item?.map fun i => ⟨i.1, i.2, s.verification, a⟩ := by
    rw [handing?, given]
  intro answered introduced
  rw [performs_handed] at answered
  rw [performs_handed, performs_follower, transaction] at introduced
  rw [performs_handed, performs_follower]
  change ∀ h ∈ s.handed ++ (s.handing? a).toList, _ at answered
  change Introduced next.reader _ ((s.handed ++ (s.handing? a).toList).map (·.event)) at introduced
  show _ = ((s.handed ++ (s.handing? a).toList).map (·.item)).foldl (told next.reader answers) p
  rw [moves.same.1] at introduced ⊢
  rw [List.map_append] at introduced ⊢
  have before : (s.verification, s.keys) =
      (s.handed.map (·.item)).foldl (told s.follower.reader answers) p :=
    h (fun h mem => answered h (List.mem_append_left _ mem)) introduced.of_append
  have unlost : s.verification.sasLost = false := by
    have same : ((s.handed.map (·.item)).map (·.2)) = s.handed.map (·.event) := by
      rw [List.map_map]
      rfl
    have named : Introduced s.follower.reader p.1.transaction.id
        ((s.handed.map (·.item)).map (·.2)) := by
      rw [same, ← terms.transaction]
      exact introduced.of_append
    have replayed : ((s.handed.map (·.item)).foldl (told s.follower.reader answers) p).1.sasLost =
        false := sasLost_foldl_told named kept
    rwa [← before] at replayed
  rw [List.foldl_append, ← before, handing]
  cases moves with
  | opens | drops | skips => rfl
  | misses | leaves =>
    obtain ⟨reply, same⟩ := Verification.finishReplay_of_kept unlost a s.keys
    show ((s.verification.perform a .finishReplay s.keys).verification,
      (s.verification.perform a .finishReplay s.keys).source) = _
    rw [same]
    rfl
  | @takes source e f comes running takes =>
    have mine : a = answers e :=
      answered ⟨source, e, s.verification, a⟩ (List.mem_append_right _ (by simp [handing]))
    show _ = told s.follower.reader answers (s.verification, s.keys) (source, e)
    unfold told
    dsimp only
    cases operationOf s.follower.reader s.verification source e with
    | none => rfl
    | some op =>
      rw [← mine]
      rfl

/-- A verification that nobody acts on is what the events make of it. -/
theorem Leads.isTold {v : Verification} {keys : KeySource} {f : Follower} {l : List Happening}
    (leads : (begin v keys f).Leads l s) (quiet : Quiet l) (kept : v.sasLost = false)
    (answers : RoomEvent → Answers) : s.IsTold answers (v, keys) := by
  have both : (begin v keys f).Steady s ∧ s.IsTold answers (v, keys) := by
    refine leads.induction (P := fun s => (begin v keys f).Steady s ∧ s.IsTold answers (v, keys))
      ⟨.refl _, fun _ _ => rfl⟩ ?_
    rintro s x mem ⟨steady, told⟩ allowed
    refine ⟨steady.trans (.after s x), ?_⟩
    have concern := s.concerns_after x
    generalize s.after x = s' at concern
    cases concern with
    | beside same => exact told.keep same
    | acts => cases quiet _ mem
    | moves given moves => exact told.go kept steady.terms given moves
  exact both.2

/-- The surroundings answered when the follower moved. -/
theorem Leads.read_mem {s₀ : Reading} {l : List Happening} (leads : s₀.Leads l s)
    (start : s₀.handed = []) : ∀ h ∈ s.handed, Happening.read h.answers ∈ l := by
  refine leads.forall_handed start ?_
  intro s a _ mem h handing
  obtain ⟨i, -, rfl⟩ := Option.map_eq_some_iff.1 handing
  exact mem

/-- A verification that nobody acts on is what everything that is due makes of it, once that is
handed over. -/
theorem Leads.verification_eq {v : Verification} {keys : KeySource} {f : Follower}
    {l : List Happening} (leads : (begin v keys f).Leads l s) (quiet : Quiet l)
    (kept : v.sasLost = false) (answered : ∀ h ∈ s.handed, h.answers = answers h.event)
    (distinct : (s.due.map itemId).Nodup)
    (introduced : Introduced f.reader v.transaction.id (s.due.map (·.2)))
    (handled : s.HasHandled) :
    (s.verification, s.keys) = s.due.foldl (told f.reader answers) (v, keys) := by
  obtain ⟨rests, ready⟩ := handled
  have steady := leads.steady
  have reader : s.follower.reader = f.reader := steady.reader
  have terms : v.SameTerms s.verification := steady.terms
  obtain ⟨more, due⟩ := leads.handed_prefix
  rw [firsts_eq_self itemId distinct] at due
  have events : s.handed.map (·.event) = (s.handed.map (·.item)).map (·.2) := by
    rw [List.map_map]
    rfl
  have named : Introduced s.follower.reader s.verification.transaction.id
      (s.handed.map (·.event)) := by
    rw [reader, terms.transaction, events]
    rw [← due, List.map_append] at introduced
    exact introduced.of_append
  have told := leads.isTold quiet kept answers answered named
  rw [reader] at told
  rw [← due, List.foldl_append, ← told]
  rcases leads.complete rests with settled | awaits | all
  · exact (foldl_told_of_isSettled settled).symm
  · exact absurd awaits ready
  · rw [firsts_eq_self itemId distinct, ← due] at all
    have nothing : more = [] := List.append_right_eq_self.1 all.symm
    rw [nothing]
    rfl

/-- **The history may end anywhere.** Two followers of one request that nobody acts on meet the same
events about it, each with an id of its own, as history or live. If our own user's first step names
another device, their verifications are the same once they have handed over what there is. -/
theorem history_and_live_agree {v : Verification} {keys : KeySource} {f : Follower}
    {l l' : List Happening} {answers : RoomEvent → Answers}
    (leads : (begin v keys f).Leads l s) (leads' : (begin v keys f).Leads l' s')
    (quiet : Quiet l) (quiet' : Quiet l') (kept : v.sasLost = false)
    (answered : ∀ h ∈ s.handed ++ s'.handed, h.answers = answers h.event)
    (same : s.due.map (·.2) = s'.due.map (·.2)) (distinct : (s.due.map itemId).Nodup)
    (introduced : Introduced f.reader v.transaction.id (s.due.map (·.2)))
    (handled : s.HasHandled) (handled' : s'.HasHandled) : s.verification = s'.verification := by
  have ids (l : List (EventSource × RoomEvent)) :
      l.map itemId = (l.map (·.2)).map (·.eventId) := by
    rw [List.map_map]
    rfl
  have distinct' : (s'.due.map itemId).Nodup := by
    rw [ids, ← same, ← ids]
    exact distinct
  have first := leads.verification_eq quiet kept
    (fun h mem => answered h (List.mem_append_left _ mem)) distinct introduced handled
  have second := leads'.verification_eq quiet' kept
    (fun h mem => answered h (List.mem_append_right _ mem)) distinct' (same ▸ introduced) handled'
  rw [← foldl_told_congr same introduced, ← first] at second
  exact (congrArg Prod.fst second).symm

/-! ### Bob's other device speaks -/

section

open Verification (sampleAnswers)

/-- Some events are in the room before Bob subscribes, and others reach him after he read; he makes
some moves in between, and some at the end. -/
def sampleSplit (early : List RoomEvent) (moves : Nat) (late : List RoomEvent) (more : Nat) :
    List Happening :=
  early.map .append ++ [.subscribe] ++ List.replicate moves (.read sampleAnswers) ++
    late.flatMap (fun e => [.append e, .broadcast e]) ++ List.replicate more (.read sampleAnswers)

theorem answers_of_sampleSplit {early late : List RoomEvent} {moves more : Nat} {h : Handing}
    (mem : h ∈ (sampleBegin.run (sampleSplit early moves late more)).handed)
    (permitted : sampleBegin.Permits (sampleSplit early moves late more)) :
    h.answers = sampleAnswers := by
  have read := Leads.read_mem ⟨permitted, rfl⟩ rfl h mem
  have twice : ¬moves = 0 ∧ h.answers = sampleAnswers ∨ ¬more = 0 ∧ h.answers = sampleAnswers := by
    simpa [sampleSplit] using read
  exact twice.elim (·.2) (·.2)

/-- A device of Bob cancels. -/
def sampleWithdrawal : RoomEvent := sampleStep "$c" "@bob:x" (.cancel ⟨.user, "bye"⟩)

/-- Bob's other device says that it is ready, and cancels. -/
def sampleElsewhere : List RoomEvent :=
  [sampleEvent "$n" "@carol:x" none, sampleStep "$r" "@bob:x" (.ready ⟨"BOB2", [.sas]⟩),
    sampleWithdrawal]

/-- Whether Bob finds what his other device did in the history or hears it, he stands down. -/
theorem history_and_live_agree_sample :
    (sampleBegin.run (sampleSplit (sampleAsks :: sampleElsewhere) 6 [] 0)).verification =
        (sampleBegin.run (sampleSplit [sampleAsks] 3 sampleElsewhere 3)).verification ∧
      (sampleBegin.run (sampleSplit [sampleAsks] 3 sampleElsewhere 3)).verification.state =
        .acceptedByOtherDevice := by
  refine ⟨?_, by decide +kernel⟩
  have found : (sampleBegin.run (sampleSplit (sampleAsks :: sampleElsewhere) 6 [] 0)).HasHandled :=
    hasHandled_of_following (.inl (by decide +kernel)) (by decide +kernel)
  have heard : (sampleBegin.run (sampleSplit [sampleAsks] 3 sampleElsewhere 3)).HasHandled :=
    hasHandled_of_following (.inl (by decide +kernel)) (by decide +kernel)
  have answered : ∀ h ∈
      (sampleBegin.run (sampleSplit (sampleAsks :: sampleElsewhere) 6 [] 0)).handed ++
        (sampleBegin.run (sampleSplit [sampleAsks] 3 sampleElsewhere 3)).handed,
      h.answers = Function.const RoomEvent sampleAnswers h.event := by
    intro h mem
    rcases List.mem_append.1 mem with mem | mem
    · exact answers_of_sampleSplit mem (by decide +kernel)
    · exact answers_of_sampleSplit mem (by decide +kernel)
  exact history_and_live_agree ⟨by decide +kernel, rfl⟩ ⟨by decide +kernel, rfl⟩
    (by decide +kernel) (by decide +kernel) rfl answered (by decide +kernel) (by decide +kernel)
    (by decide +kernel) found heard

/-- **A cancellation without a device.** Bob's other device cancels without having said anything
before. Bob has sent nothing. If he finds the cancellation in the history, his verification is
cancelled; if he hears it, he takes it for his own and goes on. -/
theorem unnamed_cancel_splits :
    ∃ s s', sampleBegin.Leads (sampleSplit [sampleAsks, sampleWithdrawal] 5 [] 0) s ∧
      sampleBegin.Leads (sampleSplit [sampleAsks] 3 [sampleWithdrawal] 1) s' ∧
      s.posted = [] ∧ s'.posted = [] ∧ s.due.map (·.2) = [sampleAsks, sampleWithdrawal] ∧
      s'.due.map (·.2) = [sampleAsks, sampleWithdrawal] ∧ s.HasHandled ∧ s'.HasHandled ∧
      s.verification.state = .cancelled ⟨.user, "bye"⟩ true ∧
      s'.verification.state = .theirRequest := by
  refine ⟨_, _, ⟨by decide +kernel, rfl⟩, ⟨by decide +kernel, rfl⟩, by decide +kernel,
    by decide +kernel, by decide +kernel, by decide +kernel, ?_, ?_, by decide +kernel,
    by decide +kernel⟩
  · exact hasHandled_of_following (.inl (by decide +kernel)) (by decide +kernel)
  · exact hasHandled_of_following (.inr (Option.isNone_iff_eq_none.1 (by decide +kernel)))
      (by decide +kernel)

end

end Reading

end DeviceVerification
