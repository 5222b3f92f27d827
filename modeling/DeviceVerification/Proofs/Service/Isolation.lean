import Mathlib.Data.List.Nodup
import DeviceVerification.Proofs.Service.Meaning
import DeviceVerification.Proofs.Service.Tenure
import DeviceVerification.Proofs.Verification.Choice

/-!
# Stray steps

Steps come to a service from anybody who can send to its device or into its rooms. `Work.Meant` says
which verification a step is for: the registered one of the transaction, if a user who takes part in
it sent the step, and no device other than the one that is known. A step that is for none of them is
counted at most (`Work.Undisturbed`), whichever task of the service handles it, and every other step
leaves all verifications but one alone (`steps_are_isolated`).
-/

namespace DeviceVerification

open Verification (Operation)

/-- A step that comes to a service. -/
inductive Arrival where
  | direct (m : ReceivedDirect)
  | room (e : RoomEvent)

namespace Work

/-- A task of a service handles a step that came in: the listener for direct messages, the listener
for rooms, or a follower that comes to it in the history or afterwards. -/
inductive Handles (w : Work) : Arrival → Work → Prop where
  | direct (scene : Scene) {m : ReceivedDirect} {step : Step} (body : m.message.body = .step step) :
      Handles w (.direct m) (w.takeDirect scene m).1
  | listener (scene : Scene) {e : RoomEvent} {relatesTo : String} {step : Step}
      (message : e.message = some (.step relatesTo step)) :
      Handles w (.room e) (w.takeEvent scene e)
  | follower {before after : List Follower} {f : Follower} {v : Verification} {t : Timelines}
      {source : EventSource} {e : RoomEvent} {move : Follower.Move} {relatesTo : String}
      {step : Step} (message : e.message = some (.step relatesTo step))
      (listed : w.service.followers = before ++ f :: after)
      (known : w.pool.verification? f.verification = some v)
      (comes : f.upcoming? t v = some (source, e)) (moved : f.move? t v = some move) :
      Handles w (.room e) (w.moveOn before f after move)

/-- A step is for a verification: it is registered for the transaction, and the step is from its
counterpart or, in a room, from our own user. A device that is known is the one that sent the
step. -/
inductive Meant (w : Work) : Arrival → Nat → Prop where
  | direct {m : ReceivedDirect} {id : Nat} {v : Verification}
      (registered : w.service.registry.direct = some id)
      (known : w.pool.verification? id = some v)
      (transaction : m.message.transactionId = v.transaction.id) (sender : m.sender = v.theirUser)
      (device : ∀ device, v.theirDevice = some device → m.senderDevice = device) :
      Meant w (.direct m) id
  | room {e : RoomEvent} {relatesTo : String} {step : Step} {id : Nat} {v : Verification}
      (message : e.message = some (.step relatesTo step))
      (registered : w.service.registry.conversation? e.roomId relatesTo = some id)
      (known : w.pool.verification? id = some v)
      (sender : e.sender = w.service.own.user ∨ e.sender = v.theirUser) : Meant w (.room e) id

/-- Nothing came of a step but that a verification has counted it: all verifications are as they
were, so is what the devices offer, their trust stores among it, nothing was sent, and of the
service no more than its followers went on. -/
structure Undisturbed (w w' : Work) : Prop where
  verifications : ∀ id : Nat, ∃ n, w'.pool.verifications[id]? =
    w.pool.verifications[id]?.map fun e => (e.1, { e.2 with activity := n })
  surroundings : w'.pool.surroundings = w.pool.surroundings
  watchdogs : w'.pool.watchdogs = w.pool.watchdogs
  service : w'.service = { w.service with followers := w'.service.followers }
  postings : w'.postings = w.postings

variable {w w' : Work} {arrival : Arrival} {id other : Nat}

theorem Undisturbed.of_pool_eq (pool : w'.pool = w.pool)
    (service : w'.service = { w.service with followers := w'.service.followers })
    (postings : w'.postings = w.postings) : w.Undisturbed w' where
  verifications := by
    intro id
    rw [pool]
    cases w.pool.verifications[id]? with
    | none => exact ⟨0, rfl⟩
    | some e => exact ⟨e.2.activity, rfl⟩
  surroundings := by rw [pool]
  watchdogs := by rw [pool]
  service := service
  postings := postings

/-! ## Direct steps -/

/-- An operation that is no more than counted disturbs nobody. -/
theorem undisturbed_perform {v : Verification} {op : Operation}
    (known : w.pool.verification? id = some v)
    (idle : ∀ a source, ∃ n reply,
      v.perform a op source = ⟨{ v with activity := n }, source, [], reply⟩) :
    w.Undisturbed (w.perform id op).1 := by
  show w.Undisturbed { w with
    pool := (w.pool.perform id op).1
    postings := w.postings ++ (w.pool.perform id op).2.1 }
  obtain same | ⟨device, v', s, found, offered, same⟩ := w.pool.perform_cases id op
  · rw [same]
    exact .of_pool_eq rfl rfl (List.append_nil _)
  · obtain rfl : v' = v := by
      rw [Pool.verification?, found] at known
      exact Option.some.inj known
    obtain ⟨n, reply, counted⟩ := idle (s.answers v'.own) s.source
    have absorbed : s.absorb v'.theirUser ⟨{ v' with activity := n }, s.source, [], reply⟩ = s :=
      rfl
    obtain ⟨inside, rfl⟩ := List.getElem?_eq_some_iff.1 offered
    rw [same, counted, absorbed]
    refine ⟨?_, List.set_getElem_self inside, rfl, rfl, List.append_nil _⟩
    intro other
    by_cases different : other = id
    · subst different
      refine ⟨n, ?_⟩
      rw [found]
      exact List.getElem?_set_self (List.getElem?_eq_some_iff.1 found).1
    · have kept : (w.pool.verifications.set id (device, { v' with activity := n }))[other]? =
          w.pool.verifications[other]? := List.getElem?_set_ne (Ne.symm different)
      cases listed : w.pool.verifications[other]? with
      | none => exact ⟨0, kept.trans listed⟩
      | some e => exact ⟨e.2.activity, kept.trans listed⟩

/-- A direct step is dropped, or received by the registered verification of its transaction and its
sender. -/
theorem takeDirect_cases (w : Work) (scene : Scene) {m : ReceivedDirect} {step : Step}
    (body : m.message.body = .step step) :
    (w.takeDirect scene m).1 = w ∨
      ∃ id v, w.service.registry.direct = some id ∧ w.pool.verification? id = some v ∧
        m.message.transactionId = v.transaction.id ∧ m.sender = v.theirUser ∧
        (w.takeDirect scene m).1 = (w.perform id (.receive (some m.senderDevice) step)).1 := by
  cases placed : w.directWith? m.message.transactionId with
  | none => exact .inl (by simp only [takeDirect, body, placed])
  | some id =>
    have registered : w.service.registry.direct = some id := (Option.filter_eq_some_iff.1 placed).1
    have dispatched : (w.takeDirect scene m).1 = { w with
        pool := (w.pool.dispatch id m).1
        postings := w.postings ++ (w.pool.dispatch id m).2.1 } := by
      simp only [takeDirect, body, placed, onPool]
    rw [dispatched]
    unfold Pool.dispatch
    split
    · rename_i op heard
      obtain ⟨v, known, named⟩ := Option.bind_eq_some_iff.1 heard
      simp only [directOperationOf, body, Option.ite_none_right_eq_some, Option.some.injEq] at named
      obtain ⟨⟨transaction, sender⟩, rfl⟩ := named
      exact .inr ⟨id, v, registered, known, transaction, sender, rfl⟩
    · exact .inl (by simp only [List.append_nil])

/-! ## Steps in rooms -/

/-- Only a step on the request of a verification does something to it, and only from a user who
takes part. -/
theorem operationOf_isSome {reader : Identity} {v : Verification} {source : EventSource}
    {e : RoomEvent} {relatesTo : String} {step : Step} {op : Operation}
    (message : e.message = some (.step relatesTo step))
    (does : operationOf reader v source e = some op) :
    relatesTo = v.transaction.id ∧ (e.sender = reader.user ∨ e.sender = v.theirUser) := by
  rw [operationOf_eq] at does
  split at does
  · rename_i step' own
    obtain ⟨named, sender⟩ := stepOf?_eq_some_iff.1 own
    cases message.symm.trans named
    exact ⟨rfl, .inl sender⟩
  · obtain ⟨step', theirs, -⟩ := Option.map_eq_some_iff.1 does
    obtain ⟨named, sender⟩ := stepOf?_eq_some_iff.1 theirs
    cases message.symm.trans named
    exact ⟨rfl, .inr sender⟩

/-- A follower that performs an operation is further on, or gone. -/
theorem moveOn_some (w : Work) (before : List Follower) (f : Follower) (after : List Follower)
    (next : Follower) (op : Operation) :
    ∃ followers, w.moveOn before f after (.go next (some op)) =
      (w.perform f.verification op).1.update fun s => { s with followers } := by
  unfold moveOn
  dsimp only
  generalize w.perform f.verification op = performed
  obtain ⟨w', reply⟩ := performed
  cases reply <;> exact ⟨_, rfl⟩

/-- What a follower does with an event that it comes to: it goes past it, or it performs what the
event does, which is then a step on the request of its verification in its room. -/
theorem moveOn_cases (w : Work) {before after : List Follower} {f : Follower} {v : Verification}
    {t : Timelines} {source : EventSource} {e : RoomEvent} {move : Follower.Move}
    {relatesTo : String} {step : Step} (message : e.message = some (.step relatesTo step))
    (comes : f.upcoming? t v = some (source, e)) (moved : f.move? t v = some move) :
    (∃ followers, w.moveOn before f after move = w.update fun s => { s with followers }) ∨
      e.roomId = f.roomId ∧ relatesTo = v.transaction.id ∧
        (e.sender = f.reader.user ∨ e.sender = v.theirUser) ∧
        ∃ followers op, w.moveOn before f after move =
          (w.perform f.verification op).1.update fun s => { s with followers } := by
  have moves := Follower.moves_of_move? moved
  generalize f.handing? t v = item? at moves
  cases moves with
  | opens | drops | skips => exact .inl ⟨_, rfl⟩
  | misses phase => simp [Follower.upcoming?, phase] at comes
  | leaves phase ended =>
    rcases ended with rfl | terminal
    · simp [Follower.upcoming?, phase] at comes
    · simp [Follower.upcoming?, terminal] at comes
  | finishes phase terminal => simp [Follower.upcoming?, terminal] at comes
  | @takes source' e' f' comes' running takes =>
    obtain ⟨rfl, rfl⟩ : source' = source ∧ e' = e := by
      simpa using (comes'.upcoming?_eq running).symm.trans comes
    cases does : operationOf f.reader v source' e' with
    | none => exact .inl ⟨_, rfl⟩
    | some op =>
      obtain ⟨transaction, sender⟩ := operationOf_isSome message does
      obtain ⟨followers, same⟩ := w.moveOn_some before f after
        { f' with seen := e'.eventId :: f.seen } op
      exact .inr ⟨takes.1, transaction, sender, followers, op, same⟩

/-- A request has one place, where the verification is found that a follower is for. -/
theorem Tidy.conversation?_eq (h : w.Tidy) {f : Follower} {v : Verification}
    (member : f ∈ w.service.followers) (known : w.pool.verification? f.verification = some v) :
    w.service.registry.conversation? f.roomId v.transaction.id = some f.verification := by
  obtain ⟨-, eventId, place⟩ := h.followers f member
  have named := h.conversations _ place
  rw [Pool.transaction?, known] at named
  have transaction : v.transaction = .conversation eventId := Option.some.inj named
  rw [transaction]
  obtain ⟨c, first⟩ : ∃ c, (w.service.registry.conversations.find? fun c =>
      c.1 == (f.roomId, eventId)) = some c :=
    Option.isSome_iff_exists.1 (List.find?_isSome.2 ⟨_, place, beq_self_eq_true _⟩)
  have key : c.1 = (f.roomId, eventId) := by simpa using List.find?_some first
  have same := List.inj_on_of_nodup_map h.keys (List.mem_of_find?_eq_some first) place key
  rw [same] at first
  exact congrArg (Option.map (·.2)) first

/-! ## Every step -/

/-- What comes of a step. -/
inductive Upshot (w : Work) (arrival : Arrival) (w' : Work) : Prop where
  /-- Nothing, but a follower may have gone past it. -/
  | passes (followers : List Follower) (same : w' = w.update fun s => { s with followers })
  /-- It acts on the verification that it is for. -/
  | acts {id : Nat} {op : Operation} (followers : List Follower) (meant : w.Meant arrival id)
      (same : w' = (w.perform id op).1.update fun s => { s with followers })
  /-- It is counted. -/
  | counts (stray : ∀ id, ¬w.Meant arrival id) (undisturbed : w.Undisturbed w')

/-- A step is for one verification at most. -/
theorem Meant.unique (h : w.Meant arrival id) (h' : w.Meant arrival other) : other = id := by
  cases h with
  | direct registered =>
    cases h' with
    | direct registered' => exact Option.some.inj (registered'.symm.trans registered)
  | room message registered =>
    cases h' with
    | room message' registered' =>
      cases message.symm.trans message'
      exact Option.some.inj (registered'.symm.trans registered)

theorem upshot_takeDirect (w : Work) (scene : Scene) {m : ReceivedDirect} {step : Step}
    (body : m.message.body = .step step) :
    w.Upshot (.direct m) (w.takeDirect scene m).1 := by
  obtain same | ⟨id, v, registered, known, transaction, sender, same⟩ :=
    w.takeDirect_cases scene body
  · rw [same]
    exact .passes w.service.followers rfl
  · rw [same]
    by_cases device : ∀ device, v.theirDevice = some device → m.senderDevice = device
    · exact .acts w.service.followers
        (.direct registered known transaction sender device) rfl
    · refine .counts ?_ (undisturbed_perform known fun a source => ?_)
      · intro id' meant
        cases meant with
        | direct registered' known' _ _ device' =>
          cases registered.symm.trans registered'
          cases known.symm.trans known'
          exact device device'
      · refine Verification.perform_of_stray a source ?_
        obtain ⟨named, known', different⟩ :
            ∃ named, v.theirDevice = some named ∧ m.senderDevice ≠ named := by
          simpa using device
        simp [Verification.Progress.isStray, known', Ne.symm different]

theorem Handles.upshot (handled : w.Handles arrival w') (tidy : w.Tidy) : w.Upshot arrival w' := by
  cases handled with
  | direct scene body => exact w.upshot_takeDirect scene body
  | listener scene message =>
    refine .passes w.service.followers ?_
    simp only [takeEvent, message]
    rfl
  | @follower before after f v t source e move relatesTo step message listed known comes moved =>
    obtain ⟨followers, same⟩ | ⟨room, transaction, sender, followers, op, same⟩ :=
      w.moveOn_cases message comes moved
    · exact .passes followers same
    · have member : f ∈ w.service.followers := by
        rw [listed]
        exact List.mem_append_right _ List.mem_cons_self
      have registered := tidy.conversation?_eq member known
      rw [← room, ← transaction] at registered
      rw [(tidy.followers f member).1] at sender
      exact .acts followers (.room message registered known sender) same

/-- **Stray steps do nothing, and every other step concerns one verification.** Whatever happened to
a service, a direct step that is not of the transaction, the counterpart or the known device of the
registered direct verification, and a step in a room that is not on the request of a registered
verification or from neither of its users, leaves all verifications as they are, but that it may be
counted, and nothing else comes of it; a step that is for a verification leaves all others exactly
as they are. -/
theorem steps_are_isolated (reached : w.Reachable) (handled : w.Handles arrival w') :
    ((∀ id, ¬w.Meant arrival id) → w.Undisturbed w') ∧
      ∀ id, w.Meant arrival id →
        ∀ other ≠ id, w'.pool.verifications[other]? = w.pool.verifications[other]? := by
  cases handled.upshot reached.tidy with
  | passes followers same =>
    subst same
    exact ⟨fun _ => .of_pool_eq rfl rfl rfl, fun _ _ _ _ => rfl⟩
  | acts followers meant same =>
    subst same
    refine ⟨fun stray => absurd meant (stray _), fun id meant' other different => ?_⟩
    rw [meant.unique meant'] at different
    exact Pool.perform_other different w.pool _
  | counts stray undisturbed =>
    exact ⟨fun _ => undisturbed, fun id meant => absurd meant (stray id)⟩

/-! ### Alice's phone -/

/-- The time at which Alice asks. -/
def sampleScene : Scene := ⟨0, 0, .empty⟩

/-- Alice's device asks Bob directly. -/
def sampleDirectAsk : ReceivedDirect := ⟨"@alice:x", "ALICE", ⟨"tx", .request ⟨"ALICE", [.sas], 0⟩⟩⟩

/-- Alice asks Bob in a room. -/
def sampleAsksInRoom : RoomEvent :=
  ⟨"!r", "$q", "@alice:x", 0, some (.request "@bob:x" ⟨"ALICE", [.sas], 0⟩)⟩

/-- A device of Alice cancels what she asked Bob directly. -/
def sampleCancels (device : String) : ReceivedDirect :=
  ⟨"@alice:x", device, ⟨"tx", .step (.cancel ⟨.user, "later"⟩)⟩⟩

/-- The service of Bob's device with both verifications. -/
def sampleWork : Work :=
  ((begin 0 (.init ⟨"@bob:x", "BOB"⟩ .default .default)
      (.init [⟨⟨.empty, .ordinary⟩, ⟨[]⟩, false⟩])).takeDirect
    sampleScene sampleDirectAsk).1.takeEvent sampleScene sampleAsksInRoom

theorem sampleWork_reachable : sampleWork.Reachable := by
  refine ⟨0, ⟨"@bob:x", "BOB"⟩, .default, .default, .init [⟨⟨.empty, .ordinary⟩, ⟨[]⟩, false⟩], ?_⟩
  exact .tail (.tail .refl (.takesDirect _ sampleScene sampleDirectAsk))
    (.takesEvent _ sampleScene sampleAsksInRoom)

/-- Alice's phone cannot cancel what her device asked for. Her device can, and what she asked in the
room is as it was. -/
theorem steps_are_isolated_sample :
    sampleWork.Undisturbed (sampleWork.takeDirect sampleScene (sampleCancels "PHONE")).1 ∧
      ((sampleWork.takeDirect sampleScene (sampleCancels "ALICE")).1.pool.isRunning 0 = false ∧
        (sampleWork.takeDirect sampleScene (sampleCancels "ALICE")).1.pool.verifications[1]? =
          sampleWork.pool.verifications[1]?) ∧
      sampleWork.pool.isRunning 0 = true ∧ sampleWork.pool.isRunning 1 = true := by
  have place : sampleWork.service.registry.direct = some 0 := by decide +kernel
  obtain ⟨v, known⟩ : ∃ v, sampleWork.pool.verification? 0 = some v :=
    Option.isSome_iff_exists.1 (by decide +kernel)
  have terms : (sampleWork.pool.verification? 0).map (fun v =>
      (v.transaction.id, v.theirUser, v.theirDevice)) = some ("tx", "@alice:x", some "ALICE") := by
    decide +kernel
  rw [known] at terms
  obtain ⟨transaction, user, device⟩ : v.transaction.id = "tx" ∧ v.theirUser = "@alice:x" ∧
      v.theirDevice = some "ALICE" := by simpa using terms
  have stray : ∀ id, ¬sampleWork.Meant (.direct (sampleCancels "PHONE")) id := by
    intro id meant
    cases meant with
    | direct registered known' _ _ near =>
      cases place.symm.trans registered
      cases known.symm.trans known'
      exact absurd (near "ALICE" device) (by decide)
  have meant : sampleWork.Meant (.direct (sampleCancels "ALICE")) 0 :=
    .direct place known transaction.symm user.symm fun named same =>
      Option.some.inj (device.symm.trans same)
  refine ⟨(steps_are_isolated sampleWork_reachable (.direct sampleScene rfl)).1 stray,
    ⟨by decide +kernel, ?_⟩, by decide +kernel, by decide +kernel⟩
  exact (steps_are_isolated sampleWork_reachable (.direct sampleScene rfl)).2 0 meant 1 (by decide)

end Work

end DeviceVerification
