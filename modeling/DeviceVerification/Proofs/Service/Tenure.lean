import Mathlib.Data.List.Nodup
import Mathlib.Data.Option.Basic
import Mathlib.Logic.Relation
import DeviceVerification.Proofs.Service.Reading

/-!
# Places and their holders

A service goes on in many ways: its user asks for verifications and acts on them, messages and
events come in, followers read, tasks end. `Work.Proceeds` lists them, in any order and at any time,
and what happens around the service besides; `step?_proceeds` says that the work a service does by
itself is of this kind. Throughout, the places of the registry are `Tidy`: a request in a room has
one place, the verification that holds it is the one of this request, and whoever follows a room
does so for a verification that holds a place there.
-/

namespace DeviceVerification

open Verification (Operation Reply)
open Relation (ReflTransGen)

/-! ## The pool -/

namespace Pool

variable {p p' : Pool} {id other device : Nat} {t : Transaction} {v : Verification}

/-- The transaction of a verification by its number. -/
def transaction? (p : Pool) (id : Nat) : Option Transaction :=
  (p.verification? id).map (·.transaction)

/-- Every verification is still there, and has its transaction. -/
def Keeps (p p' : Pool) : Prop := ∀ id t, p.transaction? id = some t → p'.transaction? id = some t

theorem Keeps.refl (p : Pool) : p.Keeps p := fun _ _ => id

theorem Keeps.of_eq (same : p'.verifications = p.verifications) : p.Keeps p' := by
  intro id t known
  rwa [transaction?, verification?, same]

/-- Verifications that are added change nothing for the others. -/
theorem Keeps.of_added (h : p.verifications <+: p'.verifications) : p.Keeps p' := by
  intro id t known
  obtain ⟨rest, whole⟩ := h
  obtain ⟨v, found, rfl⟩ := Option.map_eq_some_iff.1 known
  obtain ⟨e, listed, rfl⟩ := Option.map_eq_some_iff.1 found
  have inside : id < p.verifications.length := (List.getElem?_eq_some_iff.1 listed).1
  rw [transaction?, verification?, ← whole, List.getElem?_append_left inside, listed]
  rfl

/-- A new verification has a number of its own. -/
theorem add_spec (p : Pool) (device : Nat) (v : Verification) :
    p.Keeps (p.add device v).1 ∧ p.transaction? (p.add device v).2 = none ∧
      (p.add device v).1.transaction? (p.add device v).2 = some v.transaction := by
  refine ⟨.of_added ⟨_, rfl⟩, ?_, ?_⟩
  · simp [add, transaction?, verification?]
  · simp [add, transaction?, verification?]

/-- An operation is refused, or it acts on the one verification that has the number, with what its
device offers. -/
theorem perform_cases (p : Pool) (id : Nat) (op : Operation) :
    p.perform id op = (p, [], .refused .gone) ∨
      ∃ device v s, p.verifications[id]? = some (device, v) ∧
        p.surroundings[device]? = some s ∧
        p.perform id op =
          ({ p with
              surroundings := p.surroundings.set device
                (s.absorb v.theirUser (v.perform (s.answers v.own) op s.source))
              verifications := p.verifications.set id
                (device, (v.perform (s.answers v.own) op s.source).verification) },
            (v.perform (s.answers v.own) op s.source).effects.filterMap (posting? device v),
            (v.perform (s.answers v.own) op s.source).reply) := by
  unfold perform performAlone?
  cases found : p.verifications[id]? with
  | none => exact .inl rfl
  | some e =>
    obtain ⟨device, v⟩ := e
    cases offered : p.surroundings[device]? with
    | none => exact .inl (by simp only [offered, Option.map_none])
    | some s => exact .inr ⟨device, v, s, rfl, offered, by simp only [offered, Option.map_some]⟩

/-- An operation on a verification leaves the others alone. -/
theorem perform_other (different : other ≠ id) (p : Pool) (op : Operation) :
    (p.perform id op).1.verifications[other]? = p.verifications[other]? := by
  obtain same | ⟨device, v, s, -, -, same⟩ := p.perform_cases id op
  · rw [same]
  · rw [same]
    exact List.getElem?_set_ne different.symm

theorem keeps_perform (p : Pool) (id : Nat) (op : Operation) : p.Keeps (p.perform id op).1 := by
  obtain same | ⟨device, v, s, found, -, same⟩ := p.perform_cases id op
  · rw [same]
    exact .refl p
  · rw [same]
    intro other t known
    by_cases different : other = id
    · subst different
      have inside : other < p.verifications.length := (List.getElem?_eq_some_iff.1 found).1
      have terms := Verification.sameTerms_perform (s.answers v.own) op v s.source
      rw [transaction?, verification?, found] at known
      rw [transaction?, verification?]
      dsimp only
      rw [List.getElem?_set_self inside, ← known]
      exact congrArg some terms.transaction
    · rw [transaction?, verification?] at known ⊢
      dsimp only
      rwa [List.getElem?_set_ne (Ne.symm different)]

theorem watch_verifications (p : Pool) (scene : Scene) (policy : TimeoutPolicy)
    (timeout : UInt64) (id : Nat) :
    (p.watch scene policy timeout id).verifications = p.verifications := by
  unfold watch
  split <;> rfl

end Pool

/-! ## Tidy services -/

/-- What a follower is for: its verification, the device that reads, and the room. -/
def Follower.duty (f : Follower) : Nat × Identity × String := (f.verification, f.reader, f.roomId)

/-- A follower keeps its duty as it goes on. -/
theorem Follower.Moves.duty_eq {f next : Follower} {t : Timelines} {v : Verification}
    {op? : Option Operation} {item? : Option (EventSource × RoomEvent)}
    (h : f.Moves t v (.go next op?) item?) : next.duty = f.duty := by
  cases h with
  | opens | misses | leaves | drops => rfl
  | takes comes | skips comes => cases comes <;> rfl

/-- The places of a registry are held by the verifications that they are for, and every follower has
one. -/
structure Service.Tidy (s : Service) (p : Pool) : Prop where
  direct : ∀ id, s.registry.direct = some id → ∃ tid, p.transaction? id = some (.direct tid)
  finishing : ∀ id ∈ s.finishing, ∃ tid, p.transaction? id = some (.direct tid)
  conversations : ∀ c ∈ s.registry.conversations, p.transaction? c.2 = some (.conversation c.1.2)
  /-- A request has one place. -/
  keys : (s.registry.conversations.map (·.1)).Nodup
  followers : ∀ f ∈ s.followers, f.reader = s.own ∧
    ∃ eventId, ((f.roomId, eventId), f.verification) ∈ s.registry.conversations
  /-- A verification has one follower. -/
  distinct : (s.followers.map (·.verification)).Nodup

namespace Service.Tidy

variable {s s' : Service} {p p' : Pool} {id : Nat} {t : Transaction} {roomId eventId tid : String}

theorem init (own : Identity) (config : VerificationConfig) (settings : Sas.Settings) (p : Pool) :
    (Service.init own config settings).Tidy p where
  direct := nofun
  finishing := nofun
  conversations := nofun
  keys := .nil
  followers := nofun
  distinct := .nil

theorem keeps (h : s.Tidy p) (kept : p.Keeps p') : s.Tidy p' where
  direct id held := (h.direct id held).imp fun _ => kept id _
  finishing id mem := (h.finishing id mem).imp fun _ => kept id _
  conversations c mem := kept c.2 _ (h.conversations c mem)
  keys := h.keys
  followers := h.followers
  distinct := h.distinct

theorem setDirect (h : s.Tidy p) (known : p.transaction? id = some (.direct tid)) :
    (s.setDirect id).Tidy p :=
  { h with
    direct := by
      intro id' held
      obtain rfl : id = id' := Option.some.inj held
      exact ⟨tid, known⟩ }

theorem attendDirect (h : s.Tidy p) (known : p.transaction? id = some (.direct tid)) :
    { s with finishing := s.finishing ++ [id] }.Tidy p :=
  { h with
    finishing := by
      intro id' mem
      rcases List.mem_append.1 mem with old | new
      · exact h.finishing id' old
      · obtain rfl := List.mem_singleton.1 new
        exact ⟨tid, known⟩ }

/-- A verification that was not known yet takes a free place, and a follower for it. -/
theorem register (h : s.Tidy p) (feed : Feed RoomEvent)
    (free : s.registry.conversation? roomId eventId = none) (new : p.transaction? id = none)
    (kept : p.Keeps p') (known : p'.transaction? id = some (.conversation eventId)) :
    Service.Tidy { s.setConversation roomId eventId id with
      followers := s.followers ++ [⟨id, s.own, roomId, .opening, [], feed, true⟩] } p' where
  direct := (h.keeps kept).direct
  finishing := (h.keeps kept).finishing
  conversations := by
    intro c mem
    rcases List.mem_append.1 mem with old | last
    · exact (h.keeps kept).conversations c old
    · obtain rfl := List.mem_singleton.1 last
      exact known
  keys := by
    show ((s.registry.conversations ++ [((roomId, eventId), id)]).map (·.1)).Nodup
    rw [List.map_append, List.map_singleton, List.nodup_append]
    refine ⟨h.keys, List.nodup_singleton _, ?_⟩
    rintro key mem _ last rfl
    obtain ⟨c, listed, rfl⟩ := List.mem_map.1 mem
    have taken : c.1 = (roomId, eventId) := List.mem_singleton.1 last
    have absent := List.find?_eq_none.1 (Option.map_eq_none_iff.1 free) c listed
    exact absent (beq_iff_eq.2 taken)
  followers := by
    intro f mem
    rcases List.mem_append.1 mem with old | last
    · obtain ⟨reader, eventId', place⟩ := h.followers f old
      exact ⟨reader, eventId', List.mem_append_left _ place⟩
    · obtain rfl := List.mem_singleton.1 last
      exact ⟨rfl, eventId, List.mem_append_right _ (List.mem_singleton_self _)⟩
  distinct := by
    rw [List.map_append, List.map_singleton, List.nodup_append]
    refine ⟨h.distinct, List.nodup_singleton _, ?_⟩
    rintro id' mem _ last rfl
    obtain ⟨f, listed, rfl⟩ := List.mem_map.1 mem
    obtain ⟨-, eventId', place⟩ := h.followers f listed
    have named : p.transaction? f.verification = some (.conversation eventId') :=
      h.conversations _ place
    rw [List.mem_singleton.1 last, new] at named
    cases named

/-- A direct verification holds no place in a room. -/
theorem remove_direct (h : s.Tidy p) (known : p.transaction? id = some (.direct tid)) :
    (s.registry.remove id).conversations = s.registry.conversations := by
  unfold Registry.remove
  split
  · rfl
  · refine List.filter_eq_self.2 ?_
    intro c mem
    refine decide_eq_true ?_
    rintro rfl
    cases (h.conversations c mem).symm.trans known

/-- A verification in a room does not hold the direct place. -/
theorem remove_conversation (h : s.Tidy p)
    (known : p.transaction? id = some (.conversation eventId)) :
    s.registry.remove id =
      { s.registry with conversations := s.registry.conversations.filter fun c => c.2 ≠ id } := by
  unfold Registry.remove
  refine if_neg ?_
  intro held
  obtain ⟨tid, direct⟩ := h.direct id held
  cases known.symm.trans direct

theorem direct_remove_imp {r : Registry} {id other : Nat}
    (held : (r.remove id).direct = some other) : r.direct = some other := by
  unfold Registry.remove at held
  split at held
  · cases held
  · exact held

/-- A direct verification that has ended leaves its place. -/
theorem finish (h : s.Tidy p) {before after : List Nat}
    (listed : s.finishing = before ++ id :: after) :
    ({ s with finishing := before ++ after }.unregister id).Tidy p := by
  have kept : ∀ id' ∈ before ++ after, id' ∈ s.finishing := by
    intro id' mem
    rw [listed]
    rcases List.mem_append.1 mem with early | late
    · exact List.mem_append_left _ early
    · exact List.mem_append_right _ (List.mem_cons_of_mem _ late)
  obtain ⟨tid, known⟩ : ∃ tid, p.transaction? id = some (.direct tid) := by
    refine h.finishing id ?_
    rw [listed]
    exact List.mem_append_right _ List.mem_cons_self
  have same : (s.registry.remove id).conversations = s.registry.conversations :=
    h.remove_direct known
  exact {
    direct := fun id' held => h.direct id' (direct_remove_imp held)
    finishing := fun id' mem => h.finishing id' (kept id' mem)
    conversations := fun c mem => h.conversations c (same ▸ mem)
    keys := by
      show ((s.registry.remove id).conversations.map (·.1)).Nodup
      rw [same]
      exact h.keys
    followers := by
      intro f mem
      obtain ⟨reader, eventId, place⟩ := h.followers f mem
      exact ⟨reader, eventId, same.symm ▸ place⟩
    distinct := h.distinct }

/-- Followers that end or go on with the same duty change nothing for the places. -/
theorem follow (h : s.Tidy p) {followers : List Follower}
    (fewer : (followers.map Follower.duty).Sublist (s.followers.map Follower.duty)) :
    Service.Tidy { s with followers } p :=
  { h with
    followers := by
      intro f mem
      obtain ⟨g, listed, same⟩ := List.mem_map.1 (fewer.subset (List.mem_map_of_mem mem))
      obtain ⟨verification, reader, room⟩ : g.verification = f.verification ∧
          g.reader = f.reader ∧ g.roomId = f.roomId := by
        simpa [Follower.duty] using same
      rw [← verification, ← reader, ← room]
      exact h.followers g listed
    distinct := by
      have ids := (fewer.map (·.1)).nodup
      simp only [List.map_map] at ids
      exact ids h.distinct }

/-- A follower that ends takes the verification, which has ended, from its place. -/
theorem leave (h : s.Tidy p) {before after : List Follower} {f : Follower}
    (listed : s.followers = before ++ f :: after) :
    (Service.unregister { s with followers := before ++ after } f.verification).Tidy p := by
  have member : f ∈ s.followers := by
    rw [listed]
    exact List.mem_append_right _ List.mem_cons_self
  obtain ⟨-, eventId, place⟩ := h.followers f member
  have removed := h.remove_conversation (h.conversations _ place)
  have rest : (before ++ after).Sublist s.followers := by
    rw [listed]
    exact (List.sublist_cons_self f after).append_left before
  have others := h.follow (rest.map Follower.duty)
  -- whoever else follows a room does so for another verification
  have different : ∀ g ∈ before ++ after, g.verification ≠ f.verification := by
    have distinct := h.distinct
    rw [listed, List.map_append, List.map_cons, List.nodup_middle, ← List.map_append,
      List.nodup_cons] at distinct
    intro g mem same
    exact distinct.1 (same ▸ List.mem_map_of_mem mem)
  exact {
    direct := fun id held => h.direct id (direct_remove_imp held)
    finishing := h.finishing
    conversations := by
      intro c mem
      rw [Service.unregister, removed] at mem
      exact h.conversations c (List.mem_of_mem_filter mem)
    keys := by
      rw [Service.unregister, removed]
      exact h.keys.sublist (List.filter_sublist.map _)
    followers := by
      intro g mem
      obtain ⟨reader, eventId', held⟩ := others.followers g mem
      refine ⟨reader, eventId', ?_⟩
      rw [Service.unregister, removed]
      exact List.mem_filter.2 ⟨held, by simpa using different g mem⟩
    distinct := others.distinct }

end Service.Tidy

/-! ## What a service does -/

namespace Work

/-- The work after a follower made a move. -/
def moveOn (w : Work) (before : List Follower) (f : Follower) (after : List Follower)
    (move : Follower.Move) : Work :=
  let withFollowers (w : Work) (l : List Follower) : Work :=
    w.update fun s => { s with followers := before ++ l ++ after }
  match move with
  | .finish =>
    let w := withFollowers w []
    if f.isRegistered then w.update (·.unregister f.verification) else w
  | .go next none => withFollowers w [next]
  | .go next (some op) =>
    match w.perform f.verification op with
    | (w, .waiting) => withFollowers w []
    | (w, _) => withFollowers w [next]

/-- A service has one of its followers make its move. -/
theorem follow?_eq {scene : Scene} {w w' : Work} (h : w.follow? scene = some w') :
    ∃ before f after v move, w.service.followers = before ++ f :: after ∧
      w.pool.verification? f.verification = some v ∧
      f.move? scene.timelines v = some move ∧ w' = w.moveOn before f after move := by
  unfold follow? at h
  obtain ⟨⟨before, ⟨f, move⟩, after⟩, picked, rfl⟩ := Option.map_eq_some_iff.1 h
  obtain ⟨f', around, found⟩ := eq_of_pick? picked
  obtain ⟨move', bound, same⟩ := Option.map_eq_some_iff.1 found
  obtain ⟨rfl, rfl⟩ : f' = f ∧ move' = move := by simpa using same
  obtain ⟨v, known, moved⟩ := Option.bind_eq_some_iff.1 bound
  exact ⟨before, f', after, v, move', around, known, moved, rfl⟩

/-- A verification that is added has its transaction. -/
theorem transaction?_add (w : Work) {v : Verification} {t : Transaction}
    (named : v.transaction = t) : (w.add v).1.pool.transaction? (w.add v).2 = some t := by
  rw [← named]
  exact (w.pool.add_spec w.device v).2.2

/-- What happens around a service: inboxes and feeds fill, listeners and look-ups come and go, the
device and its network change, and others add verifications of theirs to the pool. -/
structure Beside (w w' : Work) : Prop where
  device : w'.device = w.device
  own : w'.service.own = w.service.own
  config : w'.service.config = w.service.config
  settings : w'.service.settings = w.service.settings
  registry : w'.service.registry = w.service.registry
  finishing : w'.service.finishing = w.service.finishing
  followers : w'.service.followers.map Follower.duty = w.service.followers.map Follower.duty
  verifications : w.pool.verifications <+: w'.pool.verifications

/-- The places of the service at work are tidy. -/
def Tidy (w : Work) : Prop := w.service.Tidy w.pool

namespace Tidy

variable {w w' : Work} {id : Nat} {v : Verification} {roomId eventId tid : String}

/-- What happens around a service changes nothing for its places. -/
theorem beside (h : w.Tidy) (beside : w.Beside w') : w'.Tidy := by
  have same : (w'.service.followers.map Follower.duty).Sublist
      (w.service.followers.map Follower.duty) := by
    rw [beside.followers]
  have followed := (Service.Tidy.follow h same).keeps (.of_added beside.verifications)
  exact {
    direct := by
      rw [beside.registry]
      exact followed.direct
    finishing := by
      rw [beside.finishing]
      exact followed.finishing
    conversations := by
      rw [beside.registry]
      exact followed.conversations
    keys := by
      rw [beside.registry]
      exact followed.keys
    followers := by
      rw [beside.registry, beside.own]
      exact followed.followers
    distinct := followed.distinct }

theorem announce (h : w.Tidy) (id : Nat) : (w.announce id).Tidy :=
  h.beside ⟨rfl, rfl, rfl, rfl, rfl, rfl, rfl, List.prefix_rfl⟩

theorem add (h : w.Tidy) (v : Verification) : (w.add v).1.Tidy :=
  h.keeps (w.pool.add_spec w.device v).1

theorem perform (h : w.Tidy) (id : Nat) (op : Operation) : (w.perform id op).1.Tidy :=
  h.keeps (w.pool.keeps_perform id op)

theorem attendDirect (h : w.Tidy) (scene : Scene)
    (known : w.pool.transaction? id = some (.direct tid)) : (w.attendDirect scene id).Tidy :=
  (Service.Tidy.attendDirect h known).keeps (.of_eq (w.pool.watch_verifications _ _ _ _))

/-- Whoever runs in the direct place is cancelled, and stays in the pool. -/
theorem displace (h : w.Tidy) (known : w.pool.transaction? id = some (.direct tid)) :
    (w.displace id).1.Tidy ∧ w.pool.Keeps (w.displace id).1.pool := by
  have placed : (w.update (·.setDirect id)).Tidy := h.setDirect known
  unfold Work.displace
  cases w.activeDirect? with
  | none => exact ⟨placed, .refl _⟩
  | some old =>
    have tidy := placed.perform old (.cancel replaced)
    have kept : w.pool.Keeps ((w.update (·.setDirect id)).perform old (.cancel replaced)).1.pool :=
      w.pool.keeps_perform old (.cancel replaced)
    dsimp only
    generalize (w.update (·.setDirect id)).perform old (.cancel replaced) = performed at tidy kept
    obtain ⟨w', reply⟩ := performed
    cases reply <;> exact ⟨tidy, kept⟩

theorem request (h : w.Tidy) (content : RequestContent) (theirUser transactionId : String)
    (devices : List String) (id : Nat) :
    (w.request content theirUser transactionId devices id).1.Tidy := by
  have posted : (w.post (.direct theirUser devices ⟨transactionId, .request content⟩)).Tidy := h
  unfold Work.request
  dsimp only
  split
  · exact posted
  · exact posted.perform id _

theorem requestDevices (h : w.Tidy) (scene : Scene) (transactionId theirUser : String)
    (devices : List String) :
    (w.requestDevices scene transactionId theirUser devices).1.Tidy := by
  unfold Work.requestDevices
  split
  · exact h
  · dsimp only
    generalize asked : w.service.directVerification (w.service.requestContent scene) true theirUser
      transactionId devices = v
    have named : v.transaction = .direct transactionId := by
      rw [← asked]
      rfl
    have known := w.transaction?_add named
    obtain ⟨tidy, kept⟩ := (h.add v).displace known
    generalize (w.add v).1.displace (w.add v).2 = displaced at tidy kept
    obtain ⟨w', ended⟩ := displaced
    cases ended with
    | false => exact tidy
    | true => exact (tidy.attendDirect scene (kept _ _ known)).request _ _ _ _ _

/-- A verification of a request in a room takes the place of this request, if it is free. -/
theorem register (h : w.Tidy) (scene : Scene) (roomId : String) (feed : Feed RoomEvent)
    (named : v.transaction = .conversation eventId) :
    ((w.add v).1.register scene roomId eventId feed (w.add v).2).1.Tidy := by
  obtain ⟨kept, new, known⟩ := w.pool.add_spec w.device v
  rw [named] at known
  unfold Work.register
  split
  · exact h.add v
  · rename_i free
    exact (Service.Tidy.register h feed free new kept known).keeps
      (.of_eq (Pool.watch_verifications _ _ _ _ _))

theorem beginOwn (h : w.Tidy) (scene : Scene) (content : RequestContent)
    (theirUser roomId : String) (sent : RoomEvent) :
    (w.beginOwn scene content theirUser roomId sent).1.Tidy :=
  h.register scene roomId _ rfl

theorem takeRequest (h : w.Tidy) (scene : Scene) (sender senderDevice transactionId : String)
    (content : RequestContent) :
    (w.takeRequest scene sender senderDevice transactionId content).Tidy := by
  unfold Work.takeRequest
  dsimp only
  split
  · exact h
  · split
    · generalize asked : w.service.directVerification content false sender transactionId
        [senderDevice] = v
      split
      · exact h
      · unfold turnDown Pool.performAlone?
        cases w.pool.surroundings[w.device]? with
        | none => exact h
        | some s => exact h.keeps (.of_eq rfl)
      · have named : v.transaction = .direct transactionId := by
          rw [← asked]
          rfl
        have known := w.transaction?_add named
        have placed : ((w.add v).1.update (·.setDirect (w.add v).2)).Tidy :=
          Service.Tidy.setDirect (h.add v) known
        exact (placed.attendDirect scene known).announce (w.add v).2
    · exact h

theorem takeDirect (h : w.Tidy) (scene : Scene) (m : ReceivedDirect) :
    (w.takeDirect scene m).1.Tidy := by
  unfold Work.takeDirect
  split
  · exact h.takeRequest scene _ _ _ _
  · split
    · exact h
    · rename_i id _
      show Work.Tidy { w with
        pool := (w.pool.dispatch id m).1
        postings := w.postings ++ (w.pool.dispatch id m).2.1 }
      unfold Pool.dispatch
      split
      · exact h.perform id _
      · exact h

theorem takeEvent (h : w.Tidy) (scene : Scene) (e : RoomEvent) : (w.takeEvent scene e).Tidy := by
  unfold Work.takeEvent
  dsimp only
  split
  · split
    · rename_i asked content _ _
      generalize begun : w.service.conversationVerification content false e.sender e.roomId
        e.eventId = v
      have named : v.transaction = .conversation e.eventId := by
        rw [← begun]
        rfl
      exact (h.register scene e.roomId .empty named).announce _
    · exact h
  · exact h

theorem resume (h : w.Tidy) (scene : Scene) (roomId eventId : String) (feed : Feed RoomEvent)
    (e : RoomEvent) : (w.resume scene roomId eventId feed e).1.Tidy := by
  have named (theirUser : String) (isOwn : Bool) (content : RequestContent) :
      (w.service.conversationVerification content isOwn theirUser roomId eventId).transaction =
        .conversation eventId := rfl
  unfold Work.resume
  dsimp only
  split
  · split
    · split
      · split
        · exact h
        · exact h.register scene roomId feed (named _ _ _)
      · exact h
    · split
      · split
        · exact h
        · exact h.register scene roomId feed (named _ _ _)
      · exact h
  · exact h

theorem lookUp (h : w.Tidy) (scene : Scene) (roomId eventId : String) :
    (w.lookUp scene roomId eventId).1.Tidy := by
  unfold Work.lookUp
  split
  · exact h
  · split
    · exact h
    · exact h
    · split
      · exact h.resume scene roomId eventId .empty _
      · exact h
      · exact h.beside ⟨rfl, rfl, rfl, rfl, rfl, rfl, rfl, List.prefix_rfl⟩

theorem moveOn (h : w.Tidy) {before after : List Follower} {f : Follower} {t : Timelines}
    {move : Follower.Move} (listed : w.service.followers = before ++ f :: after)
    (moved : f.move? t v = some move) : (w.moveOn before f after move).Tidy := by
  have dropped : (List.map Follower.duty (before ++ [] ++ after)).Sublist
      (w.service.followers.map Follower.duty) := by
    rw [listed, List.append_nil]
    exact ((List.sublist_cons_self f after).append_left before).map _
  cases move with
  | finish =>
    unfold Work.moveOn
    dsimp only
    split
    · have left := Service.Tidy.leave h listed
      rw [List.append_nil]
      exact left
    · exact h.follow dropped
  | go next op? =>
    have kept : (List.map Follower.duty (before ++ [next] ++ after)).Sublist
        (w.service.followers.map Follower.duty) := by
      have same : next.duty = f.duty := (Follower.moves_of_move? moved).duty_eq
      rw [listed]
      simp [same]
    cases op? with
    | none => exact h.follow kept
    | some op =>
      have performed := h.perform f.verification op
      have same : (w.perform f.verification op).1.service = w.service := rfl
      unfold Work.moveOn
      dsimp only
      generalize w.perform f.verification op = done at performed same
      obtain ⟨w', reply⟩ := done
      rw [← same] at dropped kept
      cases reply with
      | waiting => exact performed.follow dropped
      | done | refused => exact performed.follow kept

/-- A direct verification that has ended leaves its place. -/
theorem finish (h : w.Tidy) {before after : List Nat}
    (listed : w.service.finishing = before ++ id :: after) :
    ((w.update fun s => { s with finishing := before ++ after }).update (·.unregister id)).Tidy :=
  Service.Tidy.finish h listed

end Tidy

/-! ## Whatever happens -/

/-- What can happen to a service next: its user asks for a verification, a task of it does a piece
of work, somebody performs an operation on a verification, or something happens around it. -/
inductive Proceeds : Work → Work → Prop where
  /-- Devices of a user are asked, which may be our own. -/
  | asksDevices (w : Work) (scene : Scene) (transactionId theirUser : String)
      (devices : List String) :
      Proceeds w (w.requestDevices scene transactionId theirUser devices).1
  /-- A user was asked in a room. -/
  | asksUser (w : Work) (scene : Scene) (content : RequestContent) (theirUser roomId : String)
      (sent : RoomEvent) : Proceeds w (w.beginOwn scene content theirUser roomId sent).1
  | looksUp (w : Work) (scene : Scene) (roomId eventId : String) :
      Proceeds w (w.lookUp scene roomId eventId).1
  | resumes (w : Work) (scene : Scene) (roomId eventId : String) (feed : Feed RoomEvent)
      (e : RoomEvent) : Proceeds w (w.resume scene roomId eventId feed e).1
  | takesDirect (w : Work) (scene : Scene) (m : ReceivedDirect) :
      Proceeds w (w.takeDirect scene m).1
  | takesEvent (w : Work) (scene : Scene) (e : RoomEvent) : Proceeds w (w.takeEvent scene e)
  | follows {w : Work} {before after : List Follower} {f : Follower} {v : Verification}
      {t : Timelines} {move : Follower.Move} (listed : w.service.followers = before ++ f :: after)
      (known : w.pool.verification? f.verification = some v) (moved : f.move? t v = some move) :
      Proceeds w (w.moveOn before f after move)
  | finishes {w : Work} {before after : List Nat} {id : Nat}
      (listed : w.service.finishing = before ++ id :: after)
      (ended : w.pool.isRunning id = false) :
      Proceeds w
        ((w.update fun s => { s with finishing := before ++ after }).update (·.unregister id))
  /-- The user, a watch or another device acts on a verification. -/
  | performs (w : Work) (id : Nat) (op : Operation) : Proceeds w (w.perform id op).1
  | around {w w' : Work} (beside : w.Beside w') : Proceeds w w'

/-- What a service came to that began without verifications, whatever the others had. -/
def Reachable (w : Work) : Prop :=
  ∃ device own config settings pool,
    ReflTransGen Proceeds (begin device (.init own config settings) pool) w

variable {w w' : Work}

theorem Proceeds.tidy (h : w.Proceeds w') (tidy : w.Tidy) : w'.Tidy := by
  cases h with
  | asksDevices => exact tidy.requestDevices _ _ _ _
  | asksUser => exact tidy.beginOwn _ _ _ _ _
  | looksUp => exact tidy.lookUp _ _ _
  | resumes => exact tidy.resume _ _ _ _ _
  | takesDirect => exact tidy.takeDirect _ _
  | takesEvent => exact tidy.takeEvent _ _
  | follows listed known moved => exact tidy.moveOn listed moved
  | finishes listed ended => exact tidy.finish listed
  | performs => exact tidy.perform _ _
  | around beside => exact tidy.beside beside

/-- **The places of a service are tidy**, whatever happens to it. -/
theorem Reachable.tidy (reached : w.Reachable) : w.Tidy := by
  obtain ⟨device, own, config, settings, pool, steps⟩ := reached
  induction steps with
  | refl => exact .init own config settings pool
  | tail _ step ih => exact step.tidy ih

/-- The work that a service does by itself is some of what can happen to it. -/
theorem step?_proceeds {scene : Scene} (h : w.step? scene = some w') :
    ReflTransGen Proceeds w w' := by
  have beside {w w' : Work} (b : w.Beside w') : ReflTransGen Proceeds w w' := .single (.around b)
  unfold step? at h
  simp only [Option.orElse_eq_some] at h
  rcases h with h | ⟨-, h | ⟨-, h | ⟨-, h | ⟨-, h | ⟨-, h⟩⟩⟩⟩⟩
  · unfold stopListeners? at h
    dsimp only at h
    split at h
    · cases h
      exact beside ⟨rfl, rfl, rfl, rfl, rfl, rfl, rfl, List.prefix_rfl⟩
    · cases h
  · unfold takeFromDirectInbox? at h
    obtain ⟨⟨before, ⟨m, rest⟩, after⟩, -, rfl⟩ := Option.map_eq_some_iff.1 h
    have taken := Proceeds.takesDirect w scene m
    dsimp only
    generalize w.takeDirect scene m = done at taken
    obtain ⟨w', reply⟩ := done
    refine .head taken ?_
    cases reply <;> exact beside ⟨rfl, rfl, rfl, rfl, rfl, rfl, rfl, List.prefix_rfl⟩
  · unfold takeFromRoomInbox? at h
    obtain ⟨⟨before, ⟨e, rest⟩, after⟩, -, rfl⟩ := Option.map_eq_some_iff.1 h
    exact .head (.takesEvent w scene e)
      (beside ⟨rfl, rfl, rfl, rfl, rfl, rfl, rfl, List.prefix_rfl⟩)
  · obtain ⟨before, f, after, v, move, listed, known, moved, rfl⟩ := follow?_eq h
    exact .single (.follows listed known moved)
  · unfold resume? at h
    obtain ⟨⟨before, ⟨r, event⟩, after⟩, -, rfl⟩ := Option.map_eq_some_iff.1 h
    cases event with
    | none => exact beside ⟨rfl, rfl, rfl, rfl, rfl, rfl, rfl, List.prefix_rfl⟩
    | some e =>
      refine .tail ?_ (.resumes _ scene r.roomId r.eventId r.feed e)
      exact beside ⟨rfl, rfl, rfl, rfl, rfl, rfl, rfl, List.prefix_rfl⟩
  · unfold finishDirect? at h
    obtain ⟨⟨before, id, after⟩, picked, rfl⟩ := Option.map_eq_some_iff.1 h
    obtain ⟨id', listed, found⟩ := eq_of_pick? picked
    split at found
    · cases found
    · rename_i ended
      cases found
      exact .single (.finishes listed (Bool.eq_false_iff.2 ended))

end Work

end DeviceVerification
