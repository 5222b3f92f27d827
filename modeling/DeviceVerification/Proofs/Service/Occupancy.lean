import DeviceVerification.Proofs.Service.Isolation
import DeviceVerification.Proofs.Service.Tenure
import DeviceVerification.Proofs.Verification.Final

/-!
# The direct place

A device runs one direct verification at a time. A service can have announced many direct
verifications and handed many to its callers, and whoever got one may act on it at any time, but all
of them have ended except the one in the direct place (`one_direct_at_a_time`). An `Account` is a
service with everything that it gave away. It takes one `Work.Turn` after the other, each of them
run to its end: a request of ours whose cancellation of another verification is never answered is no
turn. `Work.Steady` is what a turn keeps.
-/

namespace DeviceVerification

open Verification (Operation)
open Relation (ReflTransGen)

/-- What a feed holds was there before, or it is the new item. -/
theorem Feed.mem_push {α : Type} {capacity : Nat} {f : Feed α} {item a : α}
    (mem : a ∈ (f.push capacity item).items) : a ∈ f.items ∨ a = item := by
  unfold Feed.push at mem
  split at mem
  · simpa using mem
  · rcases List.mem_append.1 mem with old | new
    · exact .inl (List.mem_of_mem_tail old)
    · exact .inr (List.mem_singleton.1 new)

namespace Registry

variable {id other : Nat}

/-- Whoever else has the direct place keeps it. -/
theorem direct_remove (r : Registry) (different : other ≠ id) (held : r.direct = some other) :
    (r.remove id).direct = some other := by
  unfold remove
  rw [if_neg (by simpa [held] using different)]
  exact held

/-- Whoever else has the place of a request keeps it. -/
theorem mem_conversations_remove (r : Registry) (different : other ≠ id) {key : String × String}
    (held : (key, other) ∈ r.conversations) : (key, other) ∈ (r.remove id).conversations := by
  unfold remove
  split
  · exact held
  · exact List.mem_filter.2 ⟨held, by simpa using different⟩

end Registry

/-- A cancellation that is answered ends the verification. -/
theorem Verification.isTerminal_of_cancel {a : Answers} {v : Verification} {source : KeySource}
    {content : CancelContent}
    (answered : (v.perform a (.cancel content) source).reply ≠ .waiting) :
    (v.perform a (.cancel content) source).verification.isTerminal = true := by
  unfold Verification.perform at answered ⊢
  dsimp only at answered ⊢
  split at answered
  · exact absurd rfl answered
  · rename_i free
    rw [if_neg free]
    show (Progress.cancel a content (Progress.begin v source)).verification.isTerminal = true
    unfold Progress.cancel
    split
    · rename_i terminal
      exact terminal
    · exact enter_isTerminal v (.cancelled content true)

/-! ## The pool -/

namespace Pool

variable {p p' p'' : Pool} {id device : Nat} {v : Verification} {t : Transaction}

/-- A verification has come to its end. -/
def HasEnded (p : Pool) (id : Nat) : Prop :=
  ∃ e, p.verifications[id]? = some e ∧ e.2.isTerminal = true

theorem HasEnded.isRunning_eq (h : p.HasEnded id) : p.isRunning id = false := by
  obtain ⟨e, found, ended⟩ := h
  simp [isRunning, verification?, found, ended]

theorem hasEnded_of_not_running (found : p.verifications[id]? = some (device, v))
    (ended : p.isRunning id = false) : p.HasEnded id := by
  refine ⟨_, found, ?_⟩
  simpa [isRunning, verification?, found] using ended

/-- A direct verification that runs. -/
structure RunsDirect (p : Pool) (id : Nat) : Prop where
  direct : ∃ tid, p.transaction? id = some (.direct tid)
  runs : p.isRunning id = true

/-- How a pool goes on: every verification stays with its device and its transaction, and none
comes back from its end. -/
structure Continues (p p' : Pool) : Prop where
  entries : ∀ (id device : Nat) (v : Verification), p.verifications[id]? = some (device, v) →
    ∃ v' : Verification, p'.verifications[id]? = some (device, v') ∧
      v'.transaction = v.transaction ∧ (v.isTerminal = true → v'.isTerminal = true)
  offers : p'.surroundings.length = p.surroundings.length

namespace Continues

theorem refl (p : Pool) : p.Continues p where
  entries _ _ v found := ⟨v, found, rfl, fun ended => ended⟩
  offers := rfl

theorem trans (h : p.Continues p') (h' : p'.Continues p'') : p.Continues p'' where
  entries id device v found := by
    obtain ⟨v', found', transaction, ended⟩ := h.entries id device v found
    obtain ⟨v'', found'', transaction', ended'⟩ := h'.entries id device v' found'
    exact ⟨v'', found'', transaction'.trans transaction, fun terminal => ended' (ended terminal)⟩
  offers := h'.offers.trans h.offers

/-- Verifications that are added change nothing for the others. -/
theorem of_added (added : p.verifications <+: p'.verifications)
    (offers : p'.surroundings.length = p.surroundings.length) : p.Continues p' where
  entries id device v found := by
    obtain ⟨rest, whole⟩ := added
    have inside : id < p.verifications.length := (List.getElem?_eq_some_iff.1 found).1
    refine ⟨v, ?_, rfl, fun ended => ended⟩
    rwa [← whole, List.getElem?_append_left inside]
  offers := offers

theorem keeps (h : p.Continues p') : p.Keeps p' := by
  intro id t known
  obtain ⟨v, found, rfl⟩ := Option.map_eq_some_iff.1 known
  obtain ⟨⟨device, v⟩, listed, rfl⟩ := Option.map_eq_some_iff.1 found
  obtain ⟨v', listed', transaction, -⟩ := h.entries id device v listed
  rw [transaction?, verification?, listed', ← transaction]
  rfl

/-- A verification stays with its device. -/
theorem owned (h : p.Continues p') (owned : ∃ v, p.verifications[id]? = some (device, v)) :
    ∃ v, p'.verifications[id]? = some (device, v) := by
  obtain ⟨v, found⟩ := owned
  obtain ⟨v', found', -⟩ := h.entries id device v found
  exact ⟨v', found'⟩

theorem hasEnded (h : p.Continues p') (ended : p.HasEnded id) : p'.HasEnded id := by
  obtain ⟨⟨device, v⟩, found, terminal⟩ := ended
  obtain ⟨v', found', -, ends⟩ := h.entries id device v found
  exact ⟨_, found', ends terminal⟩

/-- What runs has been running. -/
theorem isRunning_of (h : p.Continues p') (known : p.transaction? id = some t)
    (runs : p'.isRunning id = true) : p.isRunning id = true := by
  obtain ⟨v, found, -⟩ := Option.map_eq_some_iff.1 known
  obtain ⟨⟨device, v⟩, listed, -⟩ := Option.map_eq_some_iff.1 found
  by_contra stopped
  have ended := h.hasEnded (hasEnded_of_not_running listed (Bool.eq_false_iff.2 stopped))
  exact absurd (ended.isRunning_eq.symm.trans runs) (by simp)

end Continues

theorem continues_perform (p : Pool) (id : Nat) (op : Operation) :
    p.Continues (p.perform id op).1 := by
  obtain same | ⟨device, v, s, found, -, same⟩ := p.perform_cases id op
  · rw [same]
    exact .refl p
  · rw [same]
    refine ⟨fun other device' v' found' => ?_, List.length_set⟩
    by_cases different : other = id
    · subst different
      obtain ⟨rfl, rfl⟩ : device = device' ∧ v = v' := by
        simpa using found.symm.trans found'
      have inside : other < p.verifications.length := (List.getElem?_eq_some_iff.1 found).1
      refine ⟨_, List.getElem?_set_self inside, ?_, fun ended => ?_⟩
      · exact (Verification.sameTerms_perform (s.answers v.own) op v s.source).transaction
      · obtain ⟨reply, stays⟩ :=
          Verification.perform_of_terminal ended (s.answers v.own) op s.source
        rw [stays]
        exact ended
    · exact ⟨v', by rwa [List.getElem?_set_ne (Ne.symm different)], rfl, fun ended => ended⟩

theorem continues_watch (p : Pool) (scene : Scene) (policy : TimeoutPolicy) (timeout : UInt64)
    (id : Nat) : p.Continues (p.watch scene policy timeout id) := by
  refine .of_added ⟨[], ?_⟩ ?_
  · rw [List.append_nil, watch_verifications]
  · unfold watch
    split <;> rfl

end Pool

/-! ## What a turn keeps -/

namespace Work

variable {w w' w'' : Work} {id : Nat} {ids : List Nat} {v : Verification} {eventId : String}

/-- A step that is not about the direct place. -/
structure Apart (w w' : Work) : Prop where
  device : w'.device = w.device
  pool : w.pool.Continues w'.pool
  direct : w'.service.registry.direct = w.service.registry.direct
  incoming : w'.service.incoming.items ⊆ w.service.incoming.items

namespace Apart

theorem refl (w : Work) : w.Apart w := ⟨rfl, .refl _, rfl, fun _ mem => mem⟩

theorem trans (h : w.Apart w') (h' : w'.Apart w'') : w.Apart w'' where
  device := h'.device.trans h.device
  pool := h.pool.trans h'.pool
  direct := h'.direct.trans h.direct
  incoming := fun _ mem => h.incoming (h'.incoming mem)

theorem add (w : Work) (v : Verification) : w.Apart (w.add v).1 :=
  ⟨rfl, .of_added ⟨_, rfl⟩ rfl, rfl, fun _ mem => mem⟩

theorem perform (w : Work) (id : Nat) (op : Operation) : w.Apart (w.perform id op).1 :=
  ⟨rfl, w.pool.continues_perform id op, rfl, fun _ mem => mem⟩

theorem register (w : Work) (scene : Scene) (roomId eventId : String) (feed : Feed RoomEvent)
    (id : Nat) : w.Apart (w.register scene roomId eventId feed id).1 := by
  unfold Work.register
  split
  · exact .refl w
  · exact ⟨rfl, w.pool.continues_watch _ _ _ _, rfl, fun _ mem => mem⟩

theorem attendDirect (w : Work) (scene : Scene) (id : Nat) : w.Apart (w.attendDirect scene id) :=
  ⟨rfl, w.pool.continues_watch _ _ _ _, rfl, fun _ mem => mem⟩

/-- Nobody gets to know of a request that is turned down. -/
theorem turnDown (w : Work) (v : Verification) : w.Apart (w.turnDown v) := by
  unfold Work.turnDown Pool.performAlone?
  cases w.pool.surroundings[w.device]? with
  | none => exact .refl w
  | some s => exact ⟨rfl, .of_added ⟨[], List.append_nil _⟩ List.length_set, rfl, fun _ mem => mem⟩

/-- Steps of the counterpart act on a verification at most. -/
theorem takeStep (w : Work) (scene : Scene) {m : ReceivedDirect} {step : Step}
    (body : m.message.body = .step step) : w.Apart (w.takeDirect scene m).1 := by
  obtain same | ⟨id, v, -, -, -, -, same⟩ := w.takeDirect_cases scene body
  · rw [same]
    exact .refl w
  · rw [same]
    exact .perform w id _

/-- Readers of rooms leave the direct place alone, also at their end. -/
theorem moveOn (tidy : w.Tidy) {before after : List Follower} {f : Follower}
    (listed : w.service.followers = before ++ f :: after) (move : Follower.Move) :
    w.Apart (w.moveOn before f after move) := by
  cases move with
  | finish =>
    have member : f ∈ w.service.followers := by
      rw [listed]
      exact List.mem_append_right _ List.mem_cons_self
    obtain ⟨-, eventId, place⟩ := tidy.followers f member
    have removed := Service.Tidy.remove_conversation tidy (tidy.conversations _ place)
    unfold Work.moveOn
    dsimp only
    split
    · refine ⟨rfl, .refl _, ?_, fun _ mem => mem⟩
      show (w.service.registry.remove f.verification).direct = _
      rw [removed]
    · exact ⟨rfl, .refl _, rfl, fun _ mem => mem⟩
  | go next op? =>
    cases op? with
    | none => exact ⟨rfl, .refl _, rfl, fun _ mem => mem⟩
    | some op =>
      obtain ⟨followers, same⟩ := w.moveOn_some before f after next op
      rw [same]
      exact ⟨rfl, w.pool.continues_perform f.verification op, rfl, fun _ mem => mem⟩

end Apart

/-- What a service may give away: the verification in the direct place, and those of requests in
rooms. -/
def Admits (w : Work) (id : Nat) : Prop :=
  w.service.registry.direct = some id ∨
    ∃ eventId, w.pool.transaction? id = some (.conversation eventId)

/-- What a turn keeps that gives verifications to its caller: whoever has the direct place has it
until the end, and what is given away or announced may be. -/
structure Steady (w : Work) (ids : List Nat) (w' : Work) : Prop where
  device : w'.device = w.device
  pool : w.pool.Continues w'.pool
  kept : ∀ id, w.service.registry.direct = some id →
    w'.service.registry.direct = some id ∨ w'.pool.HasEnded id
  owned : ∀ id, w'.service.registry.direct = some id → w.service.registry.direct = some id ∨
    ∃ v, w'.pool.verifications[id]? = some (w.device, v)
  given : ∀ id ∈ ids, w'.Admits id
  announced : ∀ id ∈ w'.service.incoming.items, id ∈ w.service.incoming.items ∨ w'.Admits id

theorem Apart.steady (h : w.Apart w') (given : ∀ id ∈ ids, w'.Admits id) : w.Steady ids w' where
  device := h.device
  pool := h.pool
  kept _ held := .inl (h.direct.trans held)
  owned _ held := .inl (h.direct.symm.trans held)
  given := given
  announced _ mem := .inl (h.incoming mem)

/-- A step that is not about the direct place, and gives nothing away. -/
theorem Apart.quiet (h : w.Apart w') : w.Steady [] w' := h.steady nofun

/-- A step that is not about the direct place, and gives one verification away. -/
theorem Apart.gives (h : w.Apart w') (admits : w'.Admits id) : w.Steady [id] w' := by
  refine h.steady fun id' mem => ?_
  obtain rfl := List.mem_singleton.1 mem
  exact admits

/-- Whoever comes to the direct place, or is of a request in a room, is announced. -/
theorem Steady.announce (h : w.Steady ids w') (admits : w'.Admits id) :
    w.Steady ids (w'.announce id) where
  device := h.device
  pool := h.pool
  kept := h.kept
  owned := h.owned
  given := h.given
  announced id' mem := by
    rcases Feed.mem_push mem with old | rfl
    · exact h.announced id' old
    · exact .inr admits

/-! ## Coming to the direct place -/

/-- A verification of the device comes to the direct place, and whoever had it has ended. -/
structure Seats (w : Work) (id : Nat) (w' : Work) : Prop where
  device : w'.device = w.device
  pool : w.pool.Continues w'.pool
  vacated : ∀ old, w.service.registry.direct = some old → w'.pool.HasEnded old
  placed : w'.service.registry.direct = some id
  owned : ∃ v, w'.pool.verifications[id]? = some (w.device, v)
  incoming : w'.service.incoming.items ⊆ w.service.incoming.items

theorem Seats.after (h : w'.Seats id w'') (apart : w.Apart w') : w.Seats id w'' where
  device := h.device.trans apart.device
  pool := apart.pool.trans h.pool
  vacated old held := h.vacated old (apart.direct.trans held)
  placed := h.placed
  owned := apart.device ▸ h.owned
  incoming := fun _ mem => apart.incoming (h.incoming mem)

theorem Seats.then (h : w.Seats id w') (apart : w'.Apart w'') : w.Seats id w'' where
  device := apart.device.trans h.device
  pool := h.pool.trans apart.pool
  vacated old held := apart.pool.hasEnded (h.vacated old held)
  placed := apart.direct.trans h.placed
  owned := apart.pool.owned h.owned
  incoming := fun _ mem => h.incoming (apart.incoming mem)

theorem Seats.steady (h : w.Seats id w') (given : ids ⊆ [id]) : w.Steady ids w' where
  device := h.device
  pool := h.pool
  kept old held := .inr (h.vacated old held)
  owned id' held := by
    obtain rfl : id = id' := Option.some.inj (h.placed.symm.trans held)
    exact .inr h.owned
  given id' mem := by
    obtain rfl := List.mem_singleton.1 (given mem)
    exact .inl h.placed
  announced id' mem := .inl (h.incoming mem)

/-- The verification in the direct place is one of the device, which offers what it needs. -/
structure Sound (w : Work) : Prop where
  tidy : w.Tidy
  offered : w.device < w.pool.surroundings.length
  owned : ∀ id, w.service.registry.direct = some id →
    ∃ v, w.pool.verifications[id]? = some (w.device, v)

/-- Whoever has the direct place and does not run has ended. -/
theorem Sound.hasEnded (h : w.Sound) (held : w.service.registry.direct = some id)
    (stopped : w.pool.isRunning id = false) : w.pool.HasEnded id := by
  obtain ⟨v, found⟩ := h.owned id held
  exact Pool.hasEnded_of_not_running found stopped

/-- A verification that is new is one of the device. -/
theorem owned_add (w : Work) (v : Verification) :
    (w.add v).1.pool.verifications[(w.add v).2]? = some (w.device, v) :=
  List.getElem?_concat_length

/-- If whoever had the direct place has ended, a verification of the device can have it. -/
theorem seats_update (w : Work) (id : Nat)
    (vacated : ∀ old, w.service.registry.direct = some old → w.pool.HasEnded old)
    (owned : ∃ v, w.pool.verifications[id]? = some (w.device, v)) :
    w.Seats id (w.update (·.setDirect id)) :=
  ⟨rfl, .refl _, vacated, rfl, owned, fun _ mem => mem⟩

theorem Sound.vacated (h : w.Sound) (vacant : w.activeDirect? = none) (old : Nat)
    (held : w.service.registry.direct = some old) : w.pool.HasEnded old :=
  h.hasEnded held (Bool.eq_false_iff.2 (Option.filter_eq_none_iff.1 vacant old held))

theorem Sound.add (h : w.Sound) (v : Verification) : (w.add v).1.Sound where
  tidy := h.tidy.add v
  offered := h.offered
  owned id held := (Apart.add w v).pool.owned (h.owned id held)

/-- A verification takes the direct place from the one that runs there, once that was cancelled. -/
theorem Sound.seats_displace (h : w.Sound) (id : Nat)
    (owned : ∃ v, w.pool.verifications[id]? = some (w.device, v))
    (answered : (w.displace id).2 = true) : w.Seats id (w.displace id).1 := by
  unfold displace at answered ⊢
  cases active : w.activeDirect? with
  | none => exact w.seats_update id (h.vacated active) owned
  | some old =>
    have held : w.service.registry.direct = some old := (Option.filter_eq_some_iff.1 active).1
    obtain ⟨v, found⟩ := h.owned old held
    obtain ⟨s, offered⟩ : ∃ s, w.pool.surroundings[w.device]? = some s :=
      ⟨_, List.getElem?_eq_getElem h.offered⟩
    obtain ⟨-, ended, reply⟩ :=
      perform_eq (w := w.update (·.setDirect id)) found offered (.cancel replaced)
    have apart := Apart.perform (w.update (·.setDirect id)) old (.cancel replaced)
    simp only [active] at answered
    dsimp only
    generalize (w.update (·.setDirect id)).perform old (.cancel replaced) = performed
      at answered ended reply apart
    obtain ⟨w', r⟩ := performed
    have waits : r ≠ .waiting := by
      rintro rfl
      cases answered
    have ends : w'.pool.HasEnded old :=
      ⟨_, ended, Verification.isTerminal_of_cancel (reply ▸ waits)⟩
    have seats : w.Seats id w' := {
      device := apart.device
      pool := apart.pool
      vacated := by
        intro old' held'
        obtain rfl : old = old' := Option.some.inj (held.symm.trans held')
        exact ends
      placed := apart.direct
      owned := apart.pool.owned owned
      incoming := apart.incoming }
    cases r with
    | waiting => exact absurd rfl waits
    | done | refused => exact seats

/-! ## Every turn -/

end Work

/-- What an answer gives to the one who asked. -/
def Response.given {α : Type} : Response α → List α
  | .done a => [a]
  | .refused _ | .waiting => []

namespace Work

variable {w w' : Work} {id : Nat} {ids : List Nat} {v : Verification} {eventId : String}

/-- A service goes on, and its caller gets verifications by their numbers. A request of ours is run
to its end. -/
inductive Turn : Work → List Nat → Work → Prop where
  /-- Devices of a user are asked, which may be our own. -/
  | asksDevices (w : Work) (scene : Scene) (transactionId theirUser : String)
      (devices : List String)
      (answered : (w.requestDevices scene transactionId theirUser devices).2 ≠ .waiting) :
      Turn w (w.requestDevices scene transactionId theirUser devices).2.given
        (w.requestDevices scene transactionId theirUser devices).1
  /-- A user was asked in a room. -/
  | asksUser (w : Work) (scene : Scene) (content : RequestContent) (theirUser roomId : String)
      (sent : RoomEvent) :
      Turn w [(w.beginOwn scene content theirUser roomId sent).2]
        (w.beginOwn scene content theirUser roomId sent).1
  /-- The caller gets the running direct verification. -/
  | looksUpDirect (w : Work) : Turn w w.activeDirect?.toList w
  | looksUp (w : Work) (scene : Scene) (roomId eventId : String) :
      Turn w ((w.lookUp scene roomId eventId).2.given.flatMap (·.toList))
        (w.lookUp scene roomId eventId).1
  | resumes (w : Work) (scene : Scene) (roomId eventId : String) (feed : Feed RoomEvent)
      (e : RoomEvent) :
      Turn w ((w.resume scene roomId eventId feed e).2.given.flatMap (·.toList))
        (w.resume scene roomId eventId feed e).1
  | takesDirect (w : Work) (scene : Scene) (m : ReceivedDirect) :
      Turn w [] (w.takeDirect scene m).1
  | takesEvent (w : Work) (scene : Scene) (e : RoomEvent) : Turn w [] (w.takeEvent scene e)
  | follows {w : Work} {before after : List Follower} {f : Follower} {v : Verification}
      {t : Timelines} {move : Follower.Move} (listed : w.service.followers = before ++ f :: after)
      (known : w.pool.verification? f.verification = some v) (moved : f.move? t v = some move) :
      Turn w [] (w.moveOn before f after move)
  | finishes {w : Work} {before after : List Nat} {id : Nat}
      (listed : w.service.finishing = before ++ id :: after)
      (ended : w.pool.isRunning id = false) :
      Turn w []
        ((w.update fun s => { s with finishing := before ++ after }).update (·.unregister id))
  /-- The user, a watch or another device acts on a verification. -/
  | performs (w : Work) (id : Nat) (op : Operation) : Turn w [] (w.perform id op).1
  /-- Something happens around the service, and announcements are taken or lost. -/
  | around {w w' : Work} (beside : w.Beside w')
      (taken : w'.service.incoming.items ⊆ w.service.incoming.items)
      (offers : w'.pool.surroundings.length = w.pool.surroundings.length) : Turn w [] w'

/-- A turn is one of the things that can happen to a service. -/
theorem Turn.proceeds (h : w.Turn ids w') : w.Proceeds w' := by
  cases h with
  | asksDevices => exact .asksDevices _ _ _ _ _
  | asksUser => exact .asksUser _ _ _ _ _ _
  | looksUpDirect => exact .around ⟨rfl, rfl, rfl, rfl, rfl, rfl, rfl, List.prefix_rfl⟩
  | looksUp => exact .looksUp _ _ _ _
  | resumes => exact .resumes _ _ _ _ _ _
  | takesDirect => exact .takesDirect _ _ _
  | takesEvent => exact .takesEvent _ _ _
  | follows listed known moved => exact .follows listed known moved
  | finishes listed ended => exact .finishes listed ended
  | performs => exact .performs _ _ _
  | around beside => exact .around beside

/-- A new verification of a request in a room takes the place of this request, if it is free. -/
theorem apart_register (w : Work) (scene : Scene) (roomId : String) (feed : Feed RoomEvent)
    (v : Verification) :
    w.Apart ((w.add v).1.register scene roomId eventId feed (w.add v).2).1 :=
  (Apart.add w v).trans (.register _ scene roomId eventId feed _)

theorem admits_register (w : Work) (scene : Scene) (roomId : String) (feed : Feed RoomEvent)
    (named : v.transaction = .conversation eventId) :
    ((w.add v).1.register scene roomId eventId feed (w.add v).2).1.Admits (w.add v).2 :=
  .inr ⟨eventId, (Apart.register (w.add v).1 scene roomId eventId feed _).pool.keeps _ _
    (w.transaction?_add named)⟩

theorem Tidy.admits_conversation (h : w.Tidy) {roomId : String}
    (held : w.service.registry.conversation? roomId eventId = some id) : w.Admits id := by
  obtain ⟨c, first, rfl⟩ := Option.map_eq_some_iff.1 held
  exact .inr ⟨_, h.conversations c (List.mem_of_find?_eq_some first)⟩

/-- Whether the request is delivered or not, nobody gets another verification. -/
theorem apart_request (w : Work) (content : RequestContent) (theirUser transactionId : String)
    (devices : List String) (id : Nat) :
    w.Apart (w.request content theirUser transactionId devices id).1 ∧
      (w.request content theirUser transactionId devices id).2.given ⊆ [id] := by
  unfold request
  dsimp only
  split
  · exact ⟨⟨rfl, .refl _, rfl, fun _ mem => mem⟩, List.Subset.refl _⟩
  · exact ⟨⟨rfl, w.pool.continues_perform id _, rfl, fun _ mem => mem⟩, List.nil_subset _⟩

theorem steady_requestDevices (h : w.Sound) {scene : Scene} {transactionId theirUser : String}
    {devices : List String}
    (answered : (w.requestDevices scene transactionId theirUser devices).2 ≠ .waiting) :
    w.Steady (w.requestDevices scene transactionId theirUser devices).2.given
      (w.requestDevices scene transactionId theirUser devices).1 := by
  unfold requestDevices at answered ⊢
  split at answered
  · rename_i nobody
    rw [if_pos nobody]
    exact (Apart.refl w).quiet
  · rename_i somebody
    rw [if_neg somebody]
    dsimp only at answered ⊢
    generalize w.service.directVerification (w.service.requestContent scene) true theirUser
      transactionId devices = v at answered ⊢
    have seats := (h.add v).seats_displace (w.add v).2 ⟨v, w.owned_add v⟩
    generalize (w.add v).1.displace (w.add v).2 = displaced at answered seats ⊢
    obtain ⟨w', ended⟩ := displaced
    cases ended with
    | false => exact absurd rfl answered
    | true =>
      have attended := Apart.attendDirect w' scene (w.add v).2
      obtain ⟨requested, given⟩ := (w'.attendDirect scene (w.add v).2).apart_request
        (w.service.requestContent scene) theirUser transactionId devices (w.add v).2
      exact (((seats rfl).after (.add w v)).then (attended.trans requested)).steady given

/-- A request that comes while a direct verification runs changes nothing for anybody. -/
theorem takeRequest_of_occupied (w : Work) (scene : Scene) (sender senderDevice
    transactionId : String) (content : RequestContent) (active : w.activeDirect? = some id) :
    (w.takeRequest scene sender senderDevice transactionId content).service = w.service ∧
      (w.takeRequest scene sender senderDevice transactionId content).pool.verifications =
        w.pool.verifications := by
  unfold takeRequest
  dsimp only
  split
  · exact ⟨rfl, rfl⟩
  · split
    · split
      · exact ⟨rfl, rfl⟩
      · unfold turnDown Pool.performAlone?
        cases w.pool.surroundings[w.device]? <;> exact ⟨rfl, rfl⟩
      · rename_i vacant
        unfold directVacancy at vacant
        rw [active] at vacant
        dsimp only at vacant
        split at vacant <;> cases vacant
    · exact ⟨rfl, rfl⟩

theorem steady_takeRequest (h : w.Sound) (scene : Scene) (sender senderDevice
    transactionId : String) (content : RequestContent) :
    w.Steady [] (w.takeRequest scene sender senderDevice transactionId content) := by
  have nothing : w.Steady [] w := (Apart.refl w).quiet
  unfold takeRequest
  dsimp only
  split
  · exact nothing
  · split
    · generalize w.service.directVerification content false sender transactionId
        [senderDevice] = v
      split
      · exact nothing
      · exact (Apart.turnDown w v).quiet
      · rename_i vacant
        have free : w.activeDirect? = none := by
          unfold directVacancy at vacant
          split at vacant
          · assumption
          · split at vacant <;> cases vacant
        have ended := fun old held => (Apart.add w v).pool.hasEnded (h.vacated free old held)
        have seats := (w.add v).1.seats_update (w.add v).2 ended ⟨v, w.owned_add v⟩
        have attended := (seats.after (.add w v)).then (.attendDirect _ scene (w.add v).2)
        exact (attended.steady (List.nil_subset _)).announce (.inl attended.placed)
    · exact nothing

theorem steady_takeEvent (w : Work) (scene : Scene) (e : RoomEvent) :
    w.Steady [] (w.takeEvent scene e) := by
  have nothing : w.Steady [] w := (Apart.refl w).quiet
  unfold takeEvent
  dsimp only
  split
  · split
    · rename_i asked content _ _
      generalize begun : w.service.conversationVerification content false e.sender e.roomId
        e.eventId = v
      have named : v.transaction = .conversation e.eventId := by
        rw [← begun]
        rfl
      exact (w.apart_register scene e.roomId .empty v).quiet.announce
        (w.admits_register scene e.roomId .empty named)
    · exact nothing
  · exact nothing

/-- An event of a room leaves the direct place alone, and all verifications that there are. -/
theorem takeEvent_spares (w : Work) (scene : Scene) (e : RoomEvent) :
    (w.takeEvent scene e).service.registry.direct = w.service.registry.direct ∧
      w.pool.verifications <+: (w.takeEvent scene e).pool.verifications := by
  have registered (v : Verification) : w.pool.verifications <+:
      ((w.add v).1.register scene e.roomId e.eventId .empty (w.add v).2).1.pool.verifications := by
    unfold register
    split
    · exact ⟨_, rfl⟩
    · refine ⟨[(w.device, v)], ?_⟩
      exact ((w.add v).1.pool.watch_verifications _ _ _ _).symm
  unfold takeEvent
  dsimp only
  split
  · split
    · exact ⟨(w.apart_register scene e.roomId .empty _).direct, registered _⟩
    · exact ⟨rfl, List.prefix_rfl⟩
  · exact ⟨rfl, List.prefix_rfl⟩

theorem steady_resume (tidy : w.Tidy) (scene : Scene) (roomId eventId : String)
    (feed : Feed RoomEvent) (e : RoomEvent) :
    w.Steady ((w.resume scene roomId eventId feed e).2.given.flatMap (·.toList))
      (w.resume scene roomId eventId feed e).1 := by
  have nothing : w.Steady [] w := (Apart.refl w).quiet
  have found {id : Nat} (held : w.service.registry.conversation? roomId eventId = some id) :
      w.Steady [id] w := (Apart.refl w).gives (tidy.admits_conversation held)
  have begun (theirUser : String) (isOwn : Bool) (content : RequestContent) {v : Verification}
      (named : w.service.conversationVerification content isOwn theirUser roomId eventId = v) :
      w.Steady [(w.add v).2]
        ((w.add v).1.register scene roomId eventId feed (w.add v).2).1 :=
    (w.apart_register scene roomId feed v).gives
      (w.admits_register scene roomId feed (named ▸ rfl))
  unfold resume
  dsimp only
  split
  · split
    · split
      · split
        · exact found (by assumption)
        · exact begun _ _ _ rfl
      · exact nothing
    · split
      · split
        · exact found (by assumption)
        · exact begun _ _ _ rfl
      · exact nothing
  · exact nothing

theorem steady_lookUp (tidy : w.Tidy) (scene : Scene) (roomId eventId : String) :
    w.Steady ((w.lookUp scene roomId eventId).2.given.flatMap (·.toList))
      (w.lookUp scene roomId eventId).1 := by
  have nothing : w.Steady [] w := (Apart.refl w).quiet
  unfold lookUp
  split
  · rename_i id held
    exact (Apart.refl w).gives (tidy.admits_conversation held)
  · split
    · exact nothing
    · exact nothing
    · split
      · exact steady_resume tidy scene roomId eventId .empty _
      · exact nothing
      · exact Apart.quiet ⟨rfl, .refl _, rfl, fun _ mem => mem⟩

/-- A direct verification that has ended leaves the direct place, if it has it. -/
theorem steady_finish (h : w.Sound) {before after : List Nat}
    (ended : w.pool.isRunning id = false) :
    w.Steady []
      ((w.update fun s => { s with finishing := before ++ after }).update (·.unregister id)) where
  device := rfl
  pool := .refl _
  kept id' held := by
    by_cases same : id' = id
    · exact .inr (h.hasEnded held (same ▸ ended))
    · exact .inl (w.service.registry.direct_remove same held)
  owned id' held := .inl (Service.Tidy.direct_remove_imp held)
  given := nofun
  announced _ mem := .inl mem

/-- **Every turn** keeps whoever has the direct place there until the end. -/
theorem Turn.steady (h : w.Turn ids w') (sound : w.Sound) : w.Steady ids w' := by
  cases h with
  | asksDevices _ _ _ _ answered => exact steady_requestDevices sound answered
  | asksUser scene content theirUser roomId sent =>
    exact (w.apart_register scene roomId _ _).gives (w.admits_register scene roomId _ rfl)
  | looksUpDirect =>
    refine (Apart.refl w).steady fun id mem => ?_
    exact .inl (Option.filter_eq_some_iff.1 (Option.mem_toList.1 mem)).1
  | looksUp => exact steady_lookUp sound.tidy _ _ _
  | resumes => exact steady_resume sound.tidy _ _ _ _ _
  | takesDirect scene m =>
    cases body : m.message.body with
    | request content =>
      have taken := steady_takeRequest sound scene m.sender m.senderDevice
        m.message.transactionId content
      simpa only [takeDirect, body] using taken
    | step step => exact (Apart.takeStep w scene body).quiet
  | takesEvent => exact steady_takeEvent w _ _
  | follows listed => exact (Apart.moveOn sound.tidy listed _).quiet
  | finishes _ ended => exact steady_finish sound ended
  | performs => exact (Apart.perform w _ _).quiet
  | around beside taken offers =>
    have apart : w.Apart w' := {
      device := beside.device
      pool := .of_added beside.verifications offers
      direct := congrArg Registry.direct beside.registry
      incoming := taken }
    exact apart.quiet

theorem Turn.sound (h : w.Turn ids w') (sound : w.Sound) : w'.Sound := by
  have steady := h.steady sound
  refine ⟨h.proceeds.tidy sound.tidy, ?_, fun id held => ?_⟩
  · rw [steady.device, steady.pool.offers]
    exact sound.offered
  · rw [steady.device]
    rcases steady.owned id held with old | new
    · exact steady.pool.owned (sound.owned id old)
    · exact new

end Work

/-- A verification that has ended is taken out of the registry: by the task that waited for its end,
or by the reader of its room. -/
inductive Work.Removes (w : Work) : Nat → Work → Prop where
  | finishes {before after : List Nat} {id : Nat}
      (listed : w.service.finishing = before ++ id :: after)
      (ended : w.pool.isRunning id = false) :
      Removes w id
        ((w.update fun s => { s with finishing := before ++ after }).update (·.unregister id))
  | leaves {before after : List Follower} {f : Follower} {v : Verification} {t : Timelines}
      (listed : w.service.followers = before ++ f :: after)
      (known : w.pool.verification? f.verification = some v) (moved : f.move? t v = some .finish) :
      Removes w f.verification (w.moveOn before f after .finish)

/-- The registry after a removal: whatever had become of the place meanwhile, the others have
theirs. -/
theorem Work.Removes.registry_eq {w w' : Work} {id : Nat} (h : w.Removes id w') :
    w'.service.registry = w.service.registry.remove id ∨
      w'.service.registry = w.service.registry := by
  cases h with
  | finishes => exact .inl rfl
  | leaves =>
    unfold moveOn
    dsimp only
    split
    · exact .inl rfl
    · exact .inr rfl

/-! ## Accounts -/

/-- A service, with the verifications that it gave to its callers or announced. -/
structure Account where
  work : Work
  handed : List Nat

namespace Account

variable {a a' : Account} {id : Nat}

/-- A service takes a turn. It hands out what its caller gets and what is announced then. -/
inductive Step : Account → Account → Prop where
  | turn {w w' : Work} {ids : List Nat} (handed : List Nat) (turn : w.Turn ids w') :
      Step ⟨w, handed⟩ ⟨w', handed ++ ids ++ w'.service.incoming.items⟩

/-- What a service of one of the devices came to that began without verifications. -/
def Reachable (a : Account) : Prop :=
  ∃ device own config settings pool, device < pool.surroundings.length ∧
    ReflTransGen Step ⟨.begin device (.init own config settings) pool, []⟩ a

/-- Of what was handed out, only the verification in the direct place is direct and runs. -/
structure Sound (a : Account) : Prop where
  work : a.work.Sound
  announced : ∀ id ∈ a.work.service.incoming.items, id ∈ a.handed
  known : ∀ id ∈ a.handed, ∃ t, a.work.pool.transaction? id = some t
  placed : ∀ id ∈ a.handed, a.work.pool.RunsDirect id →
    a.work.service.registry.direct = some id

theorem sound_init {device : Nat} {own : Identity} {config : VerificationConfig}
    {settings : Sas.Settings} {pool : Pool} (offered : device < pool.surroundings.length) :
    Sound ⟨.begin device (.init own config settings) pool, []⟩ where
  work := ⟨.init own config settings pool, offered, nofun⟩
  announced := nofun
  known := nofun
  placed := nofun

/-- What is handed out was handed out before, or the service admits it. -/
theorem admits_of_mem {w w' : Work} {ids handed : List Nat} (steady : w.Steady ids w')
    (announced : ∀ id ∈ w.service.incoming.items, id ∈ handed)
    (mem : id ∈ handed ++ ids ++ w'.service.incoming.items) : id ∈ handed ∨ w'.Admits id := by
  rcases List.mem_append.1 mem with before | now
  · rcases List.mem_append.1 before with old | given
    · exact .inl old
    · exact .inr (steady.given id given)
  · exact (steady.announced id now).imp_left (announced id)

/-- What a service admits has a transaction, and is in the direct place if it runs directly. -/
theorem known_of_admits {w : Work} (tidy : w.Tidy) (admits : w.Admits id) :
    ∃ t, w.pool.transaction? id = some t := by
  rcases admits with held | ⟨eventId, known⟩
  · obtain ⟨tid, known⟩ := tidy.direct id held
    exact ⟨_, known⟩
  · exact ⟨_, known⟩

theorem Step.sound (h : a.Step a') (sound : a.Sound) : a'.Sound := by
  obtain ⟨handed, turn⟩ := h
  rename_i w w' ids
  have steady := turn.steady sound.work
  have working := turn.sound sound.work
  refine ⟨working, fun id mem => List.mem_append_right _ mem, fun id mem => ?_,
    fun id mem runs => ?_⟩
  · rcases admits_of_mem steady sound.announced mem with old | admits
    · obtain ⟨t, known⟩ := sound.known id old
      exact ⟨t, steady.pool.keeps id t known⟩
    · exact known_of_admits working.tidy admits
  · rcases admits_of_mem steady sound.announced mem with old | held | ⟨eventId, known⟩
    · obtain ⟨t, known⟩ := sound.known id old
      obtain ⟨tid, direct⟩ := runs.direct
      cases (steady.pool.keeps id t known).symm.trans direct
      have ran : w.pool.RunsDirect id :=
        ⟨⟨tid, known⟩, steady.pool.isRunning_of known runs.runs⟩
      refine (steady.kept id (sound.placed id old ran)).resolve_right fun ended => ?_
      exact absurd (ended.isRunning_eq.symm.trans runs.runs) (by simp)
    · exact held
    · obtain ⟨tid, direct⟩ := runs.direct
      cases known.symm.trans direct

theorem Reachable.sound (reached : a.Reachable) : a.Sound := by
  obtain ⟨device, own, config, settings, pool, offered, steps⟩ := reached
  induction steps with
  | refl => exact sound_init offered
  | tail _ step ih => exact step.sound ih

/-- **One direct verification at a time.** Whatever a service does, in whatever order: of all direct
verifications that it gave to its callers or announced, at most one runs, and that one has the
direct place. As long as one runs there, a request that comes in directly changes neither the
service nor any verification, and one that comes in a room leaves the direct place and its
verification alone.
Whoever is taken out of the registry at the end, every other verification has its place as before,
also if it is of the same transaction. -/
theorem one_direct_at_a_time (reached : a.Reachable) :
    (∀ id ∈ a.handed, a.work.pool.RunsDirect id →
      a.work.service.registry.direct = some id ∧
        ∀ other ∈ a.handed, a.work.pool.RunsDirect other → other = id) ∧
    (∀ id, a.work.service.registry.direct = some id → a.work.pool.isRunning id = true →
      (∀ scene m content, m.message.body = .request content →
        (a.work.takeDirect scene m).1.service = a.work.service ∧
          (a.work.takeDirect scene m).1.pool.verifications = a.work.pool.verifications) ∧
      ∀ scene e, (a.work.takeEvent scene e).service.registry.direct = some id ∧
        (a.work.takeEvent scene e).pool.verifications[id]? = a.work.pool.verifications[id]?) ∧
    ∀ id w', a.work.Removes id w' → ∀ other ≠ id,
      (a.work.service.registry.direct = some other →
        w'.service.registry.direct = some other) ∧
      ∀ key, (key, other) ∈ a.work.service.registry.conversations →
        (key, other) ∈ w'.service.registry.conversations := by
  have sound := reached.sound
  refine ⟨fun id mem runs => ?_, fun id held runs => ⟨fun scene m content body => ?_,
    fun scene e => ?_⟩, fun id w' removes other different => ?_⟩
  · have held := sound.placed id mem runs
    refine ⟨held, fun other mem' runs' => ?_⟩
    exact Option.some.inj ((sound.placed other mem' runs').symm.trans held)
  · have active : a.work.activeDirect? = some id := Option.filter_eq_some_iff.2 ⟨held, runs⟩
    have taken := a.work.takeRequest_of_occupied scene m.sender m.senderDevice
      m.message.transactionId content active
    simpa only [Work.takeDirect, body] using taken
  · obtain ⟨direct, rest, whole⟩ := a.work.takeEvent_spares scene e
    obtain ⟨v, found⟩ := sound.work.owned id held
    refine ⟨direct.trans held, ?_⟩
    rw [← whole, List.getElem?_append_left (List.getElem?_eq_some_iff.1 found).1]
  · rcases removes.registry_eq with same | same
    · rw [same]
      exact ⟨fun held => a.work.service.registry.direct_remove different held,
        fun key held => a.work.service.registry.mem_conversations_remove different held⟩
    · rw [same]
      exact ⟨fun held => held, fun key held => held⟩

/-! ### Alice asks again -/

/-- Bob's device takes Alice's request, he cancels it, and she asks once more under the same id. -/
def sampleAccount : Account :=
  let begun := Work.begin 0 (.init ⟨"@bob:x", "BOB"⟩ .default .default)
    (.init [⟨⟨.empty, .ordinary⟩, ⟨[]⟩, false⟩])
  let asked := (begun.takeDirect Work.sampleScene Work.sampleDirectAsk).1
  let cancelled := (asked.perform 0 (.cancel ⟨.user, "later"⟩)).1
  let again := (cancelled.takeDirect Work.sampleScene Work.sampleDirectAsk).1
  ⟨again, [] ++ [] ++ asked.service.incoming.items ++ [] ++ cancelled.service.incoming.items ++
    [] ++ again.service.incoming.items⟩

theorem sampleAccount_reachable : sampleAccount.Reachable := by
  refine ⟨0, ⟨"@bob:x", "BOB"⟩, .default, .default, .init [⟨⟨.empty, .ordinary⟩, ⟨[]⟩, false⟩],
    by decide, ?_⟩
  exact .tail (.tail (.tail .refl (.turn _ (.takesDirect _ Work.sampleScene Work.sampleDirectAsk)))
    (.turn _ (.performs _ 0 (.cancel ⟨.user, "later"⟩))))
    (.turn _ (.takesDirect _ Work.sampleScene Work.sampleDirectAsk))

/-- Alice asks for one more. -/
def sampleAsksMore : ReceivedDirect :=
  ⟨"@alice:x", "ALICE", ⟨"more", .request ⟨"ALICE", [.sas], 0⟩⟩⟩

/-- Bob's device announced two verifications of one transaction, the second runs, one more request
is turned down, and when the first is taken out of the registry the second keeps its place. -/
theorem one_direct_at_a_time_sample :
    (0 ∈ sampleAccount.handed ∧ 1 ∈ sampleAccount.handed ∧
      sampleAccount.work.pool.transaction? 0 = sampleAccount.work.pool.transaction? 1) ∧
    sampleAccount.work.pool.RunsDirect 1 ∧
    (∀ other ∈ sampleAccount.handed, sampleAccount.work.pool.RunsDirect other → other = 1) ∧
    (sampleAccount.work.takeDirect Work.sampleScene sampleAsksMore).1.service =
      sampleAccount.work.service ∧
    ∃ w', sampleAccount.work.Removes 0 w' ∧ w'.service.registry.direct = some 1 := by
  have runs : sampleAccount.work.pool.RunsDirect 1 :=
    ⟨⟨"tx", by decide +kernel⟩, by decide +kernel⟩
  have handed : 0 ∈ sampleAccount.handed ∧ 1 ∈ sampleAccount.handed := by decide +kernel
  have finishing : sampleAccount.work.service.finishing = [] ++ 0 :: [1] := by decide +kernel
  have ended : sampleAccount.work.pool.isRunning 0 = false := by decide +kernel
  obtain ⟨one, busy, removed⟩ := one_direct_at_a_time sampleAccount_reachable
  obtain ⟨placed, only⟩ := one 1 handed.2 runs
  refine ⟨⟨handed.1, handed.2, by decide +kernel⟩, runs, only, ?_, _, .finishes finishing ended, ?_⟩
  · exact ((busy 1 placed runs.runs).1 Work.sampleScene sampleAsksMore _ rfl).1
  · exact (removed 0 _ (.finishes finishing ended) 1 (by decide)).1 placed

end Account

end DeviceVerification
