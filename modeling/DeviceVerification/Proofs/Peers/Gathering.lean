import Mathlib.Logic.Function.Basic
import DeviceVerification.Proofs.Service.Echo
import DeviceVerification.Proofs.Verification.Choice

/-!
# Several devices answer

A request in a room goes to a user, and several devices of that user may answer it. All of them
follow the room: each takes its events in their order, at its own pace. A `Gathering` has a request,
the device that made it and the devices that can answer.

The requester settles on the device of the first Ready in the room, whichever that is, and the other
devices give up once they take that Ready (`first_ready_is_chosen`). The chosen device gives up too
if it takes an answer that another device made before it took that Ready: two devices that answer at
the same time leave the requester alone (`ready_race_gives_up`).
-/

namespace DeviceVerification.Peers

open Verification Verification.Progress Reading

/-! ## Gatherings -/

/-- A device that takes part, with its verification. -/
structure Guest where
  verification : Verification
  keys : KeySource
  /-- The events of the room that it took. -/
  taken : List RoomEvent
  /-- The steps that it made and that are no events yet, each with what it had taken before. -/
  outbox : List (Step × List RoomEvent)

/-- An event of the room, with what its sender had taken when it made it. -/
structure Note where
  event : RoomEvent
  knew : List RoomEvent
  deriving DecidableEq

/-- The device that asks, as `none`, the devices that can answer, and the room. -/
structure Gathering (κ : Type) where
  guests : Option κ → Guest
  room : List Note

/-- A request in a room to a user with some devices. Nobody asks himself in a room. -/
structure Invitation (κ : Type) where
  asker : Identity
  user : String
  foreign : asker.user ≠ user
  device : κ → String
  distinct : Function.Injective device
  roomId : String
  eventId : String
  content : RequestContent
  settings : Option κ → Sas.Settings
  keys : Option κ → KeySource

/-- The gathering in which a device is replaced. -/
def Gathering.update {κ : Type} [DecidableEq κ] (g : Gathering κ) (i : Option κ) (m : Guest) :
    Gathering κ := { g with guests := Function.update g.guests i m }

/-- Something that happens in a gathering. -/
inductive Deed (κ : Type) where
  | act (i : Option κ) (op : Operation) (a : Answers)
  /-- The next step that a device made becomes an event of the room. -/
  | post (i : Option κ) (eventId : String) (timestamp : UInt64)
  /-- A device takes its next event. -/
  | take (i : Option κ) (a : Answers)
  /-- Somebody else, or the asking user, says something. -/
  | other (e : RoomEvent)

namespace Guest

/-- The device after an operation. -/
def perform (m : Guest) (op : Operation) (a : Answers) : Guest :=
  let o := m.verification.perform a op m.keys
  { m with
    verification := o.verification
    keys := o.source
    outbox := m.outbox ++ (deliveries o.effects).map fun d => (d.2, m.taken) }

/-- The device after it took an event. -/
def hear (m : Guest) (e : RoomEvent) (a : Answers) : Guest :=
  let m' := { m with taken := m.taken ++ [e] }
  match operationOf m.verification.own m.verification .live e with
  | none => m'
  | some op => m'.perform op a

/-- Nothing more happens to a device whose verification is settled. -/
theorem perform_of_isSettled {m : Guest} (settled : m.verification.IsSettled) (op : Operation)
    (a : Answers) : m.perform op a = m := by
  obtain ⟨reply, same⟩ := settled.perform_eq a op m.keys
  simp [perform, same, deliveries]

end Guest

namespace Invitation

variable {κ : Type} (inv : Invitation κ)

/-- Who takes part. -/
def identity : Option κ → Identity
  | none => inv.asker
  | some k => ⟨inv.user, inv.device k⟩

/-- The request, as a device has it. -/
def request (i : Option κ) : Request :=
  ⟨inv.content, i.isNone, if i.isNone then inv.user else inv.asker.user, .conversation inv.eventId⟩

/-- The verification of a device before anything happened. -/
def verification (i : Option κ) : Verification :=
  .ofRequest (inv.identity i) (inv.settings i) (.room inv.roomId) (inv.request i)

/-- The gathering before anything happened. -/
def begin : Gathering κ := ⟨fun i => ⟨inv.verification i, inv.keys i, [], []⟩, []⟩

/-- The step of the user who is asked that an event has. -/
def step? (e : RoomEvent) : Option Step := stepOf? inv.user inv.eventId e

/-- The device that an event names as the one of the user who is asked. -/
def answerer? (e : RoomEvent) : Option String := (inv.step? e).bind (·.fromDevice?)

/-- The gathering after something happened. -/
def after [DecidableEq κ] (g : Gathering κ) : Deed κ → Gathering κ
  | .act i op a => g.update i ((g.guests i).perform op a)
  | .post i eventId timestamp =>
    let m := g.guests i
    match m.outbox with
    | [] => g
    | (step, knew) :: rest =>
      { g.update i { m with outbox := rest } with
        room := g.room ++ [⟨eventOf m.verification inv.roomId eventId timestamp step, knew⟩] }
  | .take i a =>
    match g.room[(g.guests i).taken.length]? with
    | none => g
    | some n => g.update i ((g.guests i).hear n.event a)
  | .other e => { g with room := g.room ++ [⟨e, []⟩] }

/-- What can happen. A device that answers is heard in the room, and the devices that can answer are
the ones of their user. -/
def Allows : Deed κ → Prop
  | .act _ op a => op.isLocal = true ∧ (op = .ready → ∀ n, a.delivery n = none)
  | .other e => inv.step? e = none
  | _ => True

/-- The gathering after several things happened. -/
def run [DecidableEq κ] (l : List (Deed κ)) : Gathering κ := l.foldl inv.after inv.begin

/-- What everything that can happen keeps holds after all of it. -/
theorem run_induction [DecidableEq κ] {P : Gathering κ → Prop} (start : P inv.begin)
    (step : ∀ g x, P g → inv.Allows x → P (inv.after g x)) {l : List (Deed κ)}
    (allowed : ∀ x ∈ l, inv.Allows x) : P (inv.run l) := by
  unfold run
  generalize inv.begin = g at start
  induction l generalizing g with
  | nil => exact start
  | cons x rest ih =>
    refine ih (fun y mem => allowed y (List.mem_cons_of_mem x mem)) (inv.after g x) ?_
    exact step g x start (allowed x List.mem_cons_self)

end Invitation

variable {κ : Type} {inv : Invitation κ} {m : Guest} {room : List Note} {k : κ} {a : Answers}
  {op : Operation} {e : RoomEvent} {n : Note} {taken : List RoomEvent} {step : Step}

/-! ## Devices that can answer -/

/-- An event is a step of another device of our user. -/
def Rivals (inv : Invitation κ) (k : κ) (e : RoomEvent) : Prop :=
  ∃ step, inv.step? e = some step ∧ NamesOther (inv.identity (some k)) step

/-- The steps that name a device, out of some. -/
def naming (device : String) (steps : List Step) : List Step :=
  steps.filter fun s => s.fromDevice? = some device

/-- Everything in which a device named itself so far, as it became known in the room or will. -/
def said (inv : Invitation κ) (k : κ) (room : List Note) (m : Guest) : List Step :=
  naming (inv.device k)
    ((room.map (·.event)).filterMap inv.step? ++ m.outbox.map (·.1))

/-- A device names itself with a Ready first: not as long as it is asked, and before it is ready. -/
structure Spoken (state : State) (said : List Step) : Prop where
  first : ∀ step ∈ said.head?, step.kind = .ready
  ready : ∀ methods, state = .ready methods → said ≠ []
  asked : state = .theirRequest → said = []

/-- What holds of a device that can answer: another device's answer is the end for it, and it makes
no answer after that. -/
structure Fair (inv : Invitation κ) (k : κ) (room : List Note) (m : Guest) : Prop where
  terms : (inv.verification (some k)).SameTerms m.verification
  route : m.verification.route = .room inv.roomId
  other : m.verification.state ≠ .ownRequest
  outdone : ∀ e ∈ m.taken, Rivals inv k e → m.verification.IsSettled
  outbox : ∀ d ∈ m.outbox, ¬NamesOther (inv.identity (some k)) d.1 ∧ ∀ e ∈ d.2, ¬Rivals inv k e
  spoken : Spoken m.verification.state (said inv k room m)
  gaveUp : m.verification.state = .acceptedByOtherDevice →
    (∃ e ∈ m.taken, Rivals inv k e) ∨ said inv k room m = []

namespace Spoken

variable {v : Verification} {o : Outcome} {said new : List Step}

/-- Whatever a device does, it keeps to that. -/
theorem speaks (h : Spoken v.state said) (speaks : Speaks v op o) (live : op.IsLive)
    (other : v.state ≠ .ownRequest) (quiet : Unnamed o.effects → new = [])
    (answers : op = .ready → v.state = .theirRequest → o.verification.state = .ready v.methods →
      ∃ step, new = [step] ∧ step.kind = .ready) :
    Spoken o.verification.state (said ++ new) := by
  cases speaks with
  | quiet unnamed ready asked =>
    rw [quiet unnamed, List.append_nil]
    refine ⟨h.first, fun methods state => ?_, fun state => ?_⟩
    · rcases ready methods state with before | own | ⟨step, replays⟩
      · exact h.ready methods before
      · exact absurd own other
      · exact absurd replays (live.ne_replay step)
    · apply h.asked
      rw [asked (by rw [state]; rfl), state]
  | answers own state entered sent =>
    obtain ⟨step, rfl, kind⟩ := answers own state entered
    rw [h.asked state, List.nil_append]
    refine ⟨?_, by simp, fun asked => ?_⟩
    · rintro step' ⟨⟩
      exact kind
    · cases entered.symm.trans asked
  | starts state entered sent =>
    obtain ⟨methods, state⟩ := state
    have spoken : said ≠ [] := h.ready methods state
    refine ⟨?_, fun _ _ => by simp [spoken], fun asked => ?_⟩
    · rw [List.head?_append_of_ne_nil _ spoken]
      exact h.first
    · rw [asked] at entered
      cases entered

end Spoken

theorem naming_append (device : String) (steps steps' : List Step) :
    naming device (steps ++ steps') = naming device steps ++ naming device steps' :=
  List.filter_append _ _

/-- What an operation adds to what a device says. -/
theorem said_perform (inv : Invitation κ) (k : κ) (room : List Note) (m : Guest)
    (taken : List RoomEvent) (op : Operation) (a : Answers) :
    said inv k room ({ m with taken := taken }.perform op a) = said inv k room m ++
      naming (inv.device k)
        ((deliveries (m.verification.perform a op m.keys).effects).map (·.2)) := by
  unfold said Guest.perform
  rw [List.map_append, ← List.append_assoc, naming_append]
  congr 2
  rw [List.map_map]
  rfl

theorem naming_of_unnamed {effects : List Effect} (unnamed : Unnamed effects) (device : String) :
    naming device ((deliveries effects).map (·.2)) = [] := by
  refine List.filter_eq_nil_iff.2 ?_
  intro step mem
  obtain ⟨d, delivered, rfl⟩ := List.mem_map.1 mem
  simp [unnamed d.2 (mem_stepsOf_of_deliveries delivered)]

namespace Fair

/-- A device that is settled goes on to take events. -/
theorem takes (h : Fair inv k room m) (more : m.taken ⊆ taken)
    (outdone : ∀ e ∈ taken, Rivals inv k e → m.verification.IsSettled) :
    Fair inv k room { m with taken := taken } where
  terms := h.terms
  route := h.route
  other := h.other
  outdone := outdone
  outbox := h.outbox
  spoken := h.spoken
  gaveUp state := by
    rcases h.gaveUp state with ⟨e, mem, rivals⟩ | silent
    · exact .inl ⟨e, more mem, rivals⟩
    · exact .inr silent

/-- The answer of a device gets into its room. -/
theorem answers (h : Fair inv k room m) (free : m.verification.held = false)
    (delivered : ∀ n, a.delivery n = none) (state : m.verification.state = .theirRequest)
    (entered : (m.verification.perform a .ready m.keys).verification.state =
      .ready m.verification.methods) :
    naming (inv.device k)
        ((deliveries (m.verification.perform a .ready m.keys).effects).map (·.2)) =
      [.ready ⟨inv.device k, m.verification.methods⟩] := by
  have own : m.verification.own.device = inv.device k := congrArg Identity.device h.terms.own
  rw [effects_ready delivered free state entered, h.route, own]
  simp [deliveries, naming, Step.fromDevice?]

/-- A device that answers itself does not give up with that. -/
theorem gaveUp_perform (h : Fair inv k room m) (running : m.verification.isTerminal = false)
    (state : (m.verification.perform a op m.keys).verification.state = .acceptedByOtherDevice) :
    op = .yieldToOtherDevice ∨ said inv k room ({ m with taken := taken }.perform op a) = [] := by
  have before : ¬m.verification.state.IsRare := by
    rintro (accepted | undefined)
    · simp [isTerminal, accepted, State.isTerminal] at running
    · simp [isTerminal, undefined, State.isTerminal] at running
  have ending := rareEnd_of_perform a m.verification m.keys (.inl state) before
  rw [state] at ending
  cases ending with
  | yield => exact .inl rfl
  | answeredElsewhere asked =>
    refine .inr ?_
    rw [said_perform, h.spoken.asked asked, List.nil_append]
    cases speaks_perform a (.receive _ _) m.verification m.keys with
    | quiet unnamed => exact naming_of_unnamed unnamed _
    | answers own => cases own
    | starts other =>
      obtain ⟨methods, other⟩ := other
      cases asked.symm.trans other

/-- What a device goes on to send is its own, and is made without another answer. -/
theorem outbox_perform (h : Fair inv k room m) (op : Operation) (a : Answers)
    (unaware : op ≠ .yieldToOtherDevice → ∀ e ∈ taken, ¬Rivals inv k e) :
    ∀ d ∈ ({ m with taken := taken }.perform op a).outbox,
      ¬NamesOther (inv.identity (some k)) d.1 ∧ ∀ e ∈ d.2, ¬Rivals inv k e := by
  intro d mem
  rcases List.mem_append.1 mem with old | new
  · exact h.outbox d old
  · obtain ⟨⟨roomId, step⟩, delivered, rfl⟩ := List.mem_map.1 new
    have sent := mem_stepsOf_of_deliveries delivered
    refine ⟨not_namesOther_iff.2 fun device named => ?_, unaware ?_⟩
    · rw [(speaks_perform a op m.verification m.keys).names_own sent named, h.terms.own]
      rfl
    · rintro rfl
      rw [effects_yield] at sent
      cases sent

/-- A device that comes to know of another answer stands down, and nothing else is said by one that
does so. -/
theorem perform (h : Fair inv k room m) (live : op.IsLive)
    (delivered : op = .ready → ∀ n, a.delivery n = none) (more : m.taken ⊆ taken)
    (fresh : ∀ e ∈ taken, Rivals inv k e → e ∈ m.taken ∨ op = .yieldToOtherDevice)
    (why : op = .yieldToOtherDevice → ∃ e ∈ taken, Rivals inv k e) :
    Fair inv k room ({ m with taken := taken }.perform op a) := by
  by_cases settled : m.verification.IsSettled
  · have still := Guest.perform_of_isSettled (m := { m with taken := taken }) settled op a
    rw [still]
    exact h.takes more fun _ _ _ => settled
  · have innocent : ∀ e ∈ m.taken, ¬Rivals inv k e :=
      fun e mem rivals => settled (h.outdone e mem rivals)
    have running : m.verification.isTerminal = false :=
      Bool.eq_false_iff.2 fun terminal => settled (.inl terminal)
    have free : m.verification.held = false := Bool.eq_false_iff.2 fun held => settled (.inr held)
    have speaks := speaks_perform a op m.verification m.keys
    constructor
    case terms => exact h.terms.trans (sameTerms_perform a op _ _)
    case route => exact route_perform a op _ h.route
    case other => exact fun state => h.other (speaks.ownRequest state)
    case outdone =>
      intro e mem rivals
      rcases fresh e mem rivals with old | rfl
      · exact absurd rivals (innocent e old)
      · exact isSettled_of_yield a m.verification m.keys
    case outbox =>
      refine h.outbox_perform op a fun other e mem rivals => ?_
      exact innocent e ((fresh e mem rivals).resolve_right other) rivals
    case spoken =>
      rw [said_perform]
      refine h.spoken.speaks speaks live h.other (naming_of_unnamed · _) ?_
      rintro rfl state entered
      exact ⟨_, h.answers free (delivered rfl) state entered, rfl⟩
    case gaveUp => exact fun state => (h.gaveUp_perform running state).imp_left why

/-- A device takes an event: another device's answer has it stand down. -/
theorem hear (h : Fair inv k room m) (e : RoomEvent) (a : Answers) :
    Fair inv k room (m.hear e a) := by
  have own : m.verification.own = inv.identity (some k) := h.terms.own
  have here : stepOf? m.verification.own.user m.verification.transaction.id e = inv.step? e := by
    rw [own, h.terms.transaction]
    rfl
  have more : m.taken ⊆ m.taken ++ [e] := List.subset_append_left _ _
  have fresh : ¬Rivals inv k e → ∀ e' ∈ m.taken ++ [e], Rivals inv k e' → e' ∈ m.taken := by
    intro harmless e' mem rivals
    rcases List.mem_append.1 mem with old | new
    · exact old
    · obtain rfl := List.mem_singleton.1 new
      exact absurd rivals harmless
  have idle : ¬Rivals inv k e → Fair inv k room { m with taken := m.taken ++ [e] } :=
    fun harmless => h.takes more fun e' mem rivals =>
      h.outdone e' (fresh harmless e' mem rivals) rivals
  cases said : inv.step? e with
  | some step =>
    by_cases other : NamesOther (inv.identity (some k)) step
    · have rivals : ∃ e' ∈ m.taken ++ [e], Rivals inv k e' :=
        ⟨e, List.mem_append_right _ (List.mem_singleton.2 rfl), step, said, other⟩
      unfold Guest.hear
      rw [operationOf_of_namesOther (here.trans said) (own ▸ other)]
      exact h.perform .yield nofun more (fun _ _ _ => .inr rfl) fun _ => rivals
    · have harmless : ¬Rivals inv k e := by
        rintro ⟨step', said', other'⟩
        obtain rfl := Option.some.inj (said.symm.trans said')
        exact other other'
      unfold Guest.hear
      rw [operationOf_of_own (here.trans said) (own ▸ other)]
      exact idle harmless
  | none =>
    have harmless : ¬Rivals inv k e := by
      rintro ⟨step, said', -⟩
      cases said.symm.trans said'
    unfold Guest.hear
    rw [operationOf_of_foreign (here.trans said)]
    cases stepOf? m.verification.theirUser m.verification.transaction.id e with
    | none => exact idle harmless
    | some step =>
      exact h.perform (.receive step) nofun more
        (fun e' mem rivals => .inl (fresh harmless e' mem rivals)) nofun

/-- What a device says stays the same as its steps become events. -/
theorem keep {room' : List Note} {rest : List (Step × List RoomEvent)} (h : Fair inv k room m)
    (less : rest ⊆ m.outbox)
    (same : said inv k room' { m with outbox := rest } = said inv k room m) :
    Fair inv k room' { m with outbox := rest } where
  terms := h.terms
  route := h.route
  other := h.other
  outdone := h.outdone
  outbox d mem := h.outbox d (less mem)
  spoken := same ▸ h.spoken
  gaveUp state := same ▸ h.gaveUp state

/-- A step of a device becomes an event. -/
theorem post (h : Fair inv k room m) {rest : List (Step × List RoomEvent)}
    (outbox : m.outbox = (step, n.knew) :: rest) (event : inv.step? n.event = some step) :
    Fair inv k (room ++ [n]) { m with outbox := rest } := by
  refine h.keep (outbox ▸ List.subset_cons_self _ _) ?_
  unfold said
  rw [outbox, List.map_append, List.filterMap_append, List.append_assoc]
  simp [event]

/-- Somebody else's event gets into the room. -/
theorem append (h : Fair inv k room m) (foreign : inv.answerer? n.event ≠ some (inv.device k)) :
    Fair inv k (room ++ [n]) m := by
  refine h.keep (List.Subset.refl _) ?_
  unfold said
  rw [List.map_append, List.filterMap_append, naming_append, naming_append, naming_append]
  have silent : naming (inv.device k) (([n].map (·.event)).filterMap inv.step?) = [] := by
    unfold Invitation.answerer? at foreign
    cases said : inv.step? n.event with
    | none => simp [said, naming]
    | some step =>
      rw [said] at foreign
      simpa [said, naming] using foreign
  rw [silent, List.append_nil]

end Fair

/-! ## The device that asks -/

/-- What holds of the device that asks: it takes the device of the first answer that it hears. -/
structure Seeks (inv : Invitation κ) (m : Guest) : Prop where
  terms : (inv.verification none).SameTerms m.verification
  kept : m.verification.sasLost = false
  decided : Decided m.verification (m.taken.findSome? inv.answerer?)

namespace Seeks

/-- An operation, with the events that come with it. -/
theorem perform (h : Seeks inv m) (live : op.IsLive) (events : List RoomEvent)
    (answers : ∀ device, events.findSome? inv.answerer? = some device ↔
      ∃ step, op = .receive none step ∧ step.fromDevice? = some device) :
    Seeks inv ({ m with taken := m.taken ++ events }.perform op a) := by
  refine ⟨h.terms.trans (sameTerms_perform a op _ _), ?_, ?_⟩
  · exact (sasLost_perform a _ _ fun step same => absurd same (live.ne_replay step)).trans h.kept
  · show Decided _ ((m.taken ++ events).findSome? inv.answerer?)
    rw [List.findSome?_append]
    exact h.decided.perform h.kept live a m.keys answers

/-- What the device that asks takes for a step of its counterpart. -/
theorem theirs (h : Seeks inv m) (e : RoomEvent) :
    stepOf? m.verification.theirUser m.verification.transaction.id e = inv.step? e := by
  have id : m.verification.transaction.id = inv.eventId :=
    congrArg Transaction.id h.terms.transaction
  have user : m.verification.theirUser = inv.user := h.terms.theirUser
  rw [user, id]
  rfl

/-- A step of the user who is asked is none of the asking user. -/
theorem foreign (h : Seeks inv m) (theirs : inv.step? e = some step) :
    stepOf? m.verification.own.user m.verification.transaction.id e = none := by
  have own : m.verification.own = inv.asker := h.terms.own
  refine Option.eq_none_iff_forall_ne_some.2 fun step' ours => ?_
  have sender := (stepOf?_eq_some_iff.1 ours).2
  rw [(stepOf?_eq_some_iff.1 theirs).2, own] at sender
  exact inv.foreign sender.symm

/-- The device that asks takes an event. -/
theorem hear (h : Seeks inv m) (e : RoomEvent) (a : Answers) : Seeks inv (m.hear e a) := by
  have one : [e].findSome? inv.answerer? = inv.answerer? e := by
    rw [List.findSome?_cons]
    cases inv.answerer? e <;> rfl
  have idle : inv.answerer? e = none → Seeks inv { m with taken := m.taken ++ [e] } := by
    intro silent
    refine ⟨h.terms, h.kept, ?_⟩
    rw [List.findSome?_append, one, silent, Option.or_none]
    exact h.decided
  unfold Guest.hear
  cases theirs : inv.step? e with
  | some step =>
    rw [operationOf_of_foreign (h.foreign theirs), h.theirs, theirs]
    refine h.perform (.receive step) [e] fun device => ?_
    rw [one, Invitation.answerer?, theirs]
    simp
  | none =>
    have silent : inv.answerer? e = none := by rw [Invitation.answerer?, theirs]; rfl
    cases ours : stepOf? m.verification.own.user m.verification.transaction.id e with
    | some step =>
      by_cases other : NamesOther m.verification.own step
      · rw [operationOf_of_namesOther ours other]
        refine h.perform .yield [e] fun device => ?_
        rw [one, silent]
        simp
      · rw [operationOf_of_own ours other]
        exact idle silent
    | none =>
      rw [operationOf_of_foreign ours, h.theirs, theirs]
      exact idle silent

/-- The device that asks only counts what a device says that it did not choose. -/
theorem ignores (h : Seeks inv m) {device other : String}
    (known : m.verification.theirDevice = some device) (named : inv.answerer? e = some other)
    (stray : other ≠ device) (a : Answers) :
    ∃ n, m.hear e a = { m with
      taken := m.taken ++ [e], verification := { m.verification with activity := n } } := by
  obtain ⟨step, theirs, named⟩ := Option.bind_eq_some_iff.1 named
  have far : isStray m.verification none step = true := by
    rw [isStray, known, Option.none_or, named]
    simpa using stray.symm
  obtain ⟨n, reply, outcome⟩ := perform_of_stray a m.keys far
  refine ⟨n, ?_⟩
  unfold Guest.hear
  rw [operationOf_of_foreign (h.foreign theirs), h.theirs, theirs]
  simp [Guest.perform, outcome, deliveries]

end Seeks

/-! ## What holds all along -/

/-- What holds of a device that takes part. -/
def Serves (inv : Invitation κ) (room : List Note) : Option κ → Guest → Prop
  | none, m => Seeks inv m
  | some k, m => Fair inv k room m

/-- What holds of a gathering. -/
structure Orderly (inv : Invitation κ) (g : Gathering κ) : Prop where
  taken : ∀ i, (g.guests i).taken <+: g.room.map (·.event)
  serves : ∀ i, Serves inv g.room i (g.guests i)
  /-- Who answers did not know of another answer. -/
  room : ∀ n ∈ g.room, ∀ step, inv.step? n.event = some step →
    ∃ k, ¬NamesOther (inv.identity (some k)) step ∧ ∀ e ∈ n.knew, ¬Rivals inv k e

variable {g : Gathering κ} {i : Option κ}

/-- What the device that asks says is no step of the user who is asked. -/
theorem step?_eventOf_asker {v : Verification} (terms : (inv.verification none).SameTerms v)
    {roomId eventId : String} {timestamp : UInt64} :
    inv.step? (eventOf v roomId eventId timestamp step) = none := by
  refine Option.eq_none_iff_forall_ne_some.2 fun step' said => ?_
  have sender := (stepOf?_eq_some_iff.1 said).2
  have own : v.own.user = inv.asker.user := congrArg Identity.user terms.own
  exact inv.foreign (own.symm.trans sender)

theorem step?_eventOf {v : Verification} (terms : (inv.verification (some k)).SameTerms v)
    {roomId eventId : String} {timestamp : UInt64} :
    inv.step? (eventOf v roomId eventId timestamp step) = some step := by
  refine stepOf?_eq_some_iff.2 ⟨?_, congrArg Identity.user terms.own⟩
  have id : v.transaction.id = inv.eventId := congrArg Transaction.id terms.transaction
  show some (ConversationMessage.step v.transaction.id step) = _
  rw [id]

namespace Serves

variable {rest : List (Step × List RoomEvent)} {knew : List RoomEvent} {roomId eventId : String}
  {timestamp : UInt64}

theorem terms (h : Serves inv room i m) : (inv.verification i).SameTerms m.verification := by
  cases i with
  | none => exact Seeks.terms h
  | some k => exact Fair.terms h

theorem act (h : Serves inv room i m) (isLocal : op.isLocal = true)
    (delivered : op = .ready → ∀ n, a.delivery n = none) : Serves inv room i (m.perform op a) := by
  cases i with
  | none =>
    have seeks := Seeks.perform (a := a) h (.action isLocal) [] fun device => ?_
    · rw [List.append_nil] at seeks
      exact seeks
    · constructor
      · nofun
      · rintro ⟨step, rfl, -⟩
        cases isLocal
  | some k =>
    refine Fair.perform h (.action isLocal) delivered (List.Subset.refl _)
      (fun _ mem _ => .inl mem) ?_
    rintro rfl
    cases isLocal

theorem hear (h : Serves inv room i m) (e : RoomEvent) (a : Answers) :
    Serves inv room i (m.hear e a) := by
  cases i with
  | none => exact Seeks.hear h e a
  | some k => exact Fair.hear h e a

/-- A step of a device becomes an event. -/
theorem post (h : Serves inv room i m) (outbox : m.outbox = (step, knew) :: rest) :
    Serves inv (room ++ [⟨eventOf m.verification roomId eventId timestamp step, knew⟩]) i
      { m with outbox := rest } := by
  have said := h.terms
  cases i with
  | none =>
    have seeks : Seeks inv m := h
    exact ⟨said, seeks.kept, seeks.decided⟩
  | some k => exact Fair.post h outbox (step?_eventOf said)

/-- An event that a device did not make gets into the room. -/
theorem append (h : Serves inv room i m)
    (foreign : ∀ k, i = some k → inv.answerer? n.event ≠ some (inv.device k)) :
    Serves inv (room ++ [n]) i m := by
  cases i with
  | none => exact h
  | some k => exact Fair.append h (foreign k rfl)

/-- What a device makes names nobody else. -/
theorem answerer?_ne (h : Serves inv room i m) (outbox : m.outbox = (step, knew) :: rest) {k : κ}
    (other : some k ≠ i) :
    inv.answerer? (eventOf m.verification roomId eventId timestamp step) ≠ some (inv.device k) := by
  have terms := h.terms
  unfold Invitation.answerer?
  cases i with
  | none =>
    rw [step?_eventOf_asker terms]
    nofun
  | some k' =>
    rw [step?_eventOf terms]
    intro named
    have ours := (Fair.outbox h _ (outbox ▸ List.mem_cons_self)).1
    have same : inv.device k = inv.device k' := not_namesOther_iff.1 ours _ named
    exact other (congrArg some (inv.distinct same))

end Serves

theorem serves_begin (inv : Invitation κ) (i : Option κ) :
    Serves inv [] i (inv.begin.guests i) := by
  cases i with
  | none => exact ⟨.refl _, rfl, rfl, .inl rfl⟩
  | some k =>
    constructor
    case terms => exact .refl _
    case route => rfl
    case other => nofun
    case outdone => exact nofun
    case outbox => exact nofun
    case spoken => exact ⟨nofun, nofun, fun _ => rfl⟩
    case gaveUp => nofun

theorem orderly_begin (inv : Invitation κ) : Orderly inv inv.begin where
  taken _ := List.nil_prefix
  serves := serves_begin inv
  room := nofun

/-- A device that hears an event takes it. -/
theorem taken_hear (m : Guest) (e : RoomEvent) (a : Answers) :
    (m.hear e a).taken = m.taken ++ [e] := by
  unfold Guest.hear
  split <;> rfl

namespace Orderly

variable [DecidableEq κ]

/-- A device changes, and the room stays as it is. -/
theorem update (h : Orderly inv g) (taken : m.taken <+: g.room.map (·.event))
    (serves : Serves inv g.room i m) : Orderly inv (g.update i m) where
  taken := (Function.forall_update_iff g.guests fun _ m => m.taken <+: _).2
    ⟨taken, fun j _ => h.taken j⟩
  serves := (Function.forall_update_iff g.guests fun j m => Serves inv g.room j m).2
    ⟨serves, fun j _ => h.serves j⟩
  room := h.room

theorem act (h : Orderly inv g) (isLocal : op.isLocal = true)
    (delivered : op = .ready → ∀ n, a.delivery n = none) :
    Orderly inv (inv.after g (.act i op a)) :=
  h.update (h.taken i) ((h.serves i).act isLocal delivered)

theorem take (h : Orderly inv g) : Orderly inv (inv.after g (.take i a)) := by
  unfold Invitation.after
  dsimp only
  split
  · exact h
  · rename_i n next
    refine h.update ?_ ((h.serves i).hear n.event a)
    obtain ⟨rest, room⟩ := h.taken i
    have next' : (g.room.map (·.event))[(g.guests i).taken.length]? = some n.event := by
      rw [List.getElem?_map, next]
      rfl
    rw [← room, List.getElem?_append_right (Nat.le_refl _), Nat.sub_self] at next'
    rw [taken_hear, ← room]
    cases rest with
    | nil => cases next'
    | cons e more =>
      obtain rfl : e = n.event := Option.some.inj next'
      exact (List.prefix_append_right_inj _).2 ⟨more, rfl⟩

/-- An event gets into the room that is no step of the user who is asked. -/
theorem other (h : Orderly inv g) (foreign : inv.step? e = none) :
    Orderly inv (inv.after g (.other e)) where
  taken i := by
    refine (h.taken i).trans ?_
    exact (List.prefix_append g.room _).map _
  serves i := by
    refine (h.serves i).append fun k _ => ?_
    rw [Invitation.answerer?, foreign]
    nofun
  room n mem step said := by
    rcases List.mem_append.1 mem with old | new
    · exact h.room n old step said
    · obtain rfl := List.mem_singleton.1 new
      cases foreign.symm.trans said

theorem post (h : Orderly inv g) {eventId : String} {timestamp : UInt64} :
    Orderly inv (inv.after g (.post i eventId timestamp)) := by
  unfold Invitation.after
  dsimp only
  split
  · exact h
  · rename_i step knew rest outbox
    have longer : ∀ n : Note, g.room.map (·.event) <+: (g.room ++ [n]).map (·.event) :=
      fun n => (List.prefix_append g.room [n]).map _
    constructor
    case taken =>
      refine (Function.forall_update_iff g.guests fun _ m => m.taken <+: _).2 ⟨?_, fun j _ => ?_⟩
      · exact (h.taken i).trans (longer _)
      · exact (h.taken j).trans (longer _)
    case serves =>
      refine (Function.forall_update_iff g.guests fun j m => Serves inv _ j m).2 ⟨?_, ?_⟩
      · exact (h.serves i).post outbox
      · rintro j other
        refine (h.serves j).append ?_
        rintro k rfl
        exact (h.serves i).answerer?_ne outbox other
    case room =>
      intro n mem step' said
      rcases List.mem_append.1 mem with old | new
      · exact h.room n old step' said
      · obtain rfl := List.mem_singleton.1 new
        cases i with
        | none => cases (step?_eventOf_asker (h.serves none).terms).symm.trans said
        | some k =>
          obtain rfl := Option.some.inj ((step?_eventOf (h.serves (some k)).terms).symm.trans said)
          exact ⟨k, Fair.outbox (h.serves (some k)) _ (outbox ▸ List.mem_cons_self)⟩

/-- Whatever happens, a gathering stays orderly. -/
theorem after (h : Orderly inv g) (x : Deed κ) (allowed : inv.Allows x) :
    Orderly inv (inv.after g x) := by
  cases x with
  | act i op a => exact h.act allowed.1 allowed.2
  | post i eventId timestamp => exact h.post
  | take i a => exact h.take
  | other e => exact h.other allowed

end Orderly

/-! ## The first Ready -/

/-- Of what nobody answers before an answer, the answer is the first. -/
theorem findSome?_of_prefix {α β : Type} {f : α → Option β} {l before rest : List α} {x : α} {b : β}
    (prefixed : l <+: before ++ x :: rest) (silent : ∀ y ∈ before, f y = none)
    (answer : f x = some b) (mem : x ∈ l) : l.findSome? f = some b := by
  have later : x ∉ before := by
    intro there
    cases (silent x there).symm.trans answer
  obtain ⟨more, eq⟩ := prefixed
  rcases List.append_eq_append_iff.1 eq with ⟨left, rfl, -⟩ | ⟨taken, rfl, tail⟩
  · exact absurd (List.mem_append_left _ mem) later
  · cases taken with
    | nil =>
      rw [List.append_nil] at mem
      exact absurd mem later
    | cons y taken =>
      obtain rfl : x = y := (List.cons.inj tail).1
      rw [List.findSome?_append, List.findSome?_eq_none_iff.2 silent, Option.none_or,
        List.findSome?_cons, answer]

/-- A Ready has nobody's answer in front of it. -/
structure Leading (inv : Invitation κ) (g : Gathering κ) (before : List Note) (first : Note)
    (rest : List Note) (content : ReadyContent) : Prop where
  room : g.room = before ++ first :: rest
  ready : inv.step? first.event = some (.ready content)
  silent : ∀ n ∈ before, inv.answerer? n.event = none

namespace Orderly

/-- Nobody answers before the first Ready. -/
theorem silent_before (h : Orderly inv g) {before rest : List Note} (room : g.room = before ++ rest)
    (first : ∀ n ∈ before, ∀ content, inv.step? n.event ≠ some (.ready content)) :
    ∀ n ∈ before, inv.answerer? n.event = none := by
  intro n mem
  by_contra answers
  obtain ⟨device, answers⟩ := Option.ne_none_iff_exists'.1 answers
  obtain ⟨step, carries, named⟩ := Option.bind_eq_some_iff.1 answers
  obtain ⟨k, ours, -⟩ := h.room n (room ▸ List.mem_append_left _ mem) step carries
  obtain rfl := not_namesOther_iff.1 ours device named
  -- What the device says begins with a Ready, which is in front of the first one.
  have spoken := (Fair.spoken (h.serves (some k))).first
  have here : step ∈ naming (inv.device k) ((before.map (·.event)).filterMap inv.step?) := by
    refine List.mem_filter.2 ⟨?_, decide_eq_true named⟩
    exact List.mem_filterMap.2 ⟨n.event, List.mem_map_of_mem mem, carries⟩
  unfold said at spoken
  rw [room, List.map_append, List.filterMap_append, List.append_assoc, naming_append,
    List.head?_append_of_ne_nil _ (List.ne_nil_of_mem here)] at spoken
  obtain ⟨step', head⟩ := Option.isSome_iff_exists.1
    (List.isSome_head?.2 (List.ne_nil_of_mem here))
  have mem' := List.mem_filterMap.1 (List.mem_of_mem_filter (List.mem_of_mem_head? head))
  obtain ⟨e, there, carries'⟩ := mem'
  obtain ⟨n', mem', rfl⟩ := List.mem_map.1 there
  have kind := spoken step' head
  cases step' with
  | ready content => exact first n' mem' content carries'
  | _ => cases kind

/-- The first Ready is of one of the devices. -/
theorem leading (h : Orderly inv g) {before rest : List Note} {first : Note}
    {content : ReadyContent} (room : g.room = before ++ first :: rest)
    (ready : inv.step? first.event = some (.ready content))
    (earlier : ∀ n ∈ before, ∀ content, inv.step? n.event ≠ some (.ready content)) :
    Leading inv g before first rest content ∧ ∃ k, content.fromDevice = inv.device k := by
  refine ⟨⟨room, ready, h.silent_before room earlier⟩, ?_⟩
  have here : first ∈ g.room := by
    rw [room]
    exact List.mem_append_right _ List.mem_cons_self
  obtain ⟨k, ours, -⟩ := h.room first here _ ready
  exact ⟨k, not_namesOther_iff.1 ours _ rfl⟩

end Orderly

namespace Leading

variable {before rest : List Note} {first : Note} {content : ReadyContent} {k' : κ}

theorem rivals (h : Leading inv g before first rest content)
    (device : content.fromDevice = inv.device k) (other : k' ≠ k) : Rivals inv k' first.event := by
  refine ⟨_, h.ready, content.fromDevice, rfl, ?_⟩
  rw [device]
  exact fun same => other (inv.distinct same).symm

/-- The device that asks settles on the device of the first Ready. -/
theorem decided (h : Leading inv g before first rest content) (orderly : Orderly inv g)
    (took : first.event ∈ (g.guests none).taken) :
    Decided (g.guests none).verification (some content.fromDevice) := by
  have prefixed := orderly.taken none
  rw [h.room, List.map_append, List.map_cons] at prefixed
  have silent : ∀ e ∈ before.map (·.event), inv.answerer? e = none := by
    intro e among
    obtain ⟨n, mem, rfl⟩ := List.mem_map.1 among
    exact h.silent n mem
  have answers : inv.answerer? first.event = some content.fromDevice := by
    rw [Invitation.answerer?, h.ready]
    rfl
  rw [← findSome?_of_prefix prefixed silent answers took]
  exact Seeks.decided (orderly.serves none)

/-- The device of the first Ready gives up only for an answer that was made without it. -/
theorem gaveUp (h : Leading inv g before first rest content) (orderly : Orderly inv g)
    (device : content.fromDevice = inv.device k)
    (state : (g.guests (some k)).verification.state = .acceptedByOtherDevice) :
    ∃ n ∈ rest, ∃ step, inv.step? n.event = some step ∧
      NamesOther (inv.identity (some k)) step ∧ first.event ∉ n.knew := by
  have spoke : said inv k g.room (g.guests (some k)) ≠ [] := by
    have event : first.event ∈ g.room.map (·.event) := by simp [h.room]
    apply List.ne_nil_of_mem (a := .ready content)
    refine List.mem_filter.2 ⟨List.mem_append_left _ ?_, by simp [Step.fromDevice?, device]⟩
    exact List.mem_filterMap.2 ⟨first.event, event, h.ready⟩
  have fair : Fair inv k g.room (g.guests (some k)) := orderly.serves (some k)
  obtain ⟨e, took, step, carries, names⟩ := (fair.gaveUp state).resolve_right spoke
  obtain ⟨n, mem, rfl⟩ := List.mem_map.1 ((orderly.taken (some k)).subset took)
  obtain ⟨k', ours, unaware⟩ := orderly.room n mem step carries
  have other : k' ≠ k := by
    rintro rfl
    exact ours names
  refine ⟨n, ?_, step, carries, names, fun knew => unaware _ knew (h.rivals device other)⟩
  rw [h.room] at mem
  rcases List.mem_append.1 mem with old | new
  · obtain ⟨device', named, -⟩ := names
    have quiet := h.silent n old
    rw [Invitation.answerer?, carries] at quiet
    cases quiet.symm.trans named
  · rcases List.mem_cons.1 new with rfl | later
    · obtain rfl := Option.some.inj (h.ready.symm.trans carries)
      obtain ⟨device', ⟨⟩, different⟩ := names
      exact absurd device different
    · exact later

end Leading

/-- What becomes of a gathering where a device is the first one to be ready. -/
structure Chosen (inv : Invitation κ) (g : Gathering κ) (first : Note) (rest : List Note) (k : κ) :
    Prop where
  /-- The device is the one that is verified, unless the request was at its end. -/
  decided : first.event ∈ (g.guests none).taken →
    Decided (g.guests none).verification (some (inv.device k))
  /-- What another device says is only counted. -/
  ignores : (g.guests none).verification.theirDevice = some (inv.device k) →
    ∀ e other, inv.answerer? e = some other → other ≠ inv.device k → ∀ a, ∃ n,
      (g.guests none).hear e a = { g.guests none with
        taken := (g.guests none).taken ++ [e]
        verification := { (g.guests none).verification with activity := n } }
  others : ∀ k', k' ≠ k → first.event ∈ (g.guests (some k')).taken →
    (g.guests (some k')).verification.IsSettled
  /-- The device gives up itself only for an answer that was made without its own. -/
  gaveUp : (g.guests (some k)).verification.state = .acceptedByOtherDevice →
    ∃ n ∈ rest, ∃ step, inv.step? n.event = some step ∧
      NamesOther (inv.identity (some k)) step ∧ first.event ∉ n.knew

/-- **The first Ready is chosen.** In whatever order devices answer, act and take what is in the
room: once the requester took the first Ready of the room, its device is the one that is verified,
unless the request was at its end, and steps of other devices are only counted. The other devices
give up once they take that Ready. The device of the first Ready gives up itself only for a later
answer that was made without it. -/
theorem first_ready_is_chosen [DecidableEq κ] (inv : Invitation κ) {l : List (Deed κ)}
    (allowed : ∀ x ∈ l, inv.Allows x) {before rest : List Note} {first : Note}
    {content : ReadyContent} (room : (inv.run l).room = before ++ first :: rest)
    (ready : inv.step? first.event = some (.ready content))
    (earlier : ∀ n ∈ before, ∀ content, inv.step? n.event ≠ some (.ready content)) :
    ∃ k, content.fromDevice = inv.device k ∧ Chosen inv (inv.run l) first rest k := by
  have orderly : Orderly inv (inv.run l) :=
    inv.run_induction (orderly_begin inv) (fun _ x h ok => h.after x ok) allowed
  generalize inv.run l = g at room orderly
  obtain ⟨leading, k, device⟩ := orderly.leading room ready earlier
  refine ⟨k, device, ?_⟩
  constructor
  case decided =>
    intro took
    rw [← device]
    exact leading.decided orderly took
  case ignores =>
    intro known e other named stray a
    exact Seeks.ignores (orderly.serves none) known named stray a
  case others =>
    intro k' other took
    have fair : Fair inv k' g.room (g.guests (some k')) := orderly.serves (some k')
    exact fair.outdone _ took (leading.rivals device other)
  case gaveUp =>
    intro state
    exact leading.gaveUp orderly device state

/-! ### Two devices of Bob answer -/

section

open Verification (sampleAnswers)

/-- Alice asks Bob, who has two devices. -/
def sampleInvitation : Invitation Bool where
  asker := ⟨"@alice:x", "ALICE"⟩
  user := "@bob:x"
  foreign := by decide
  device second := if second then "BOB2" else "BOB1"
  distinct := by
    unfold Function.Injective
    decide
  roomId := "!r"
  eventId := "$q"
  content := ⟨"ALICE", [.sas], 0⟩
  settings _ := .default
  keys _ := ⟨[]⟩

/-- What Bob's devices say, by device. -/
def sampleAnswerOf (second : Bool) : RoomEvent :=
  sampleStep (if second then "$2" else "$1") "@bob:x"
    (.ready ⟨sampleInvitation.device second, [.sas]⟩)

/-- Both devices of Bob answer before they know of each other, and everybody takes both answers. -/
def sampleBoth : List (Deed Bool) :=
  [.act (some false) .ready sampleAnswers, .act (some true) .ready sampleAnswers,
    .post (some false) "$1" 0, .post (some true) "$2" 0] ++
    [none, some false, some true].flatMap fun i => List.replicate 2 (.take i sampleAnswers)

theorem allows_sampleBoth : ∀ x ∈ sampleBoth, sampleInvitation.Allows x := by
  have delivered : ∀ n, sampleAnswers.delivery n = none := fun _ => rfl
  simp [sampleBoth, Invitation.Allows, Operation.isLocal, delivered]

/-- Alice takes the first device, and the second one gives up. The first one gives up for the answer
of the second one, which did not know of the first. -/
theorem first_ready_is_chosen_sample :
    Decided ((sampleInvitation.run sampleBoth).guests none).verification (some "BOB1") ∧
      ((sampleInvitation.run sampleBoth).guests (some true)).verification.IsSettled ∧
      ∃ n ∈ (sampleInvitation.run sampleBoth).room, n.event = sampleAnswerOf true ∧
        sampleAnswerOf false ∉ n.knew := by
  obtain ⟨first, rest, room, event, event', ready⟩ : ∃ first rest,
      (sampleInvitation.run sampleBoth).room = [] ++ first :: rest ∧
        first.event = sampleAnswerOf false ∧ rest.map (·.event) = [sampleAnswerOf true] ∧
        sampleInvitation.step? first.event = some (.ready ⟨"BOB1", [.sas]⟩) :=
    ⟨_, _, rfl, by decide +kernel, by decide +kernel, by decide +kernel⟩
  obtain ⟨k, device, chosen⟩ :=
    first_ready_is_chosen sampleInvitation allows_sampleBoth room ready nofun
  obtain rfl : k = false := by
    revert device
    cases k <;> decide
  have took : ∀ i, sampleAnswerOf false ∈ ((sampleInvitation.run sampleBoth).guests i).taken := by
    rintro (_ | _ | _) <;> decide +kernel
  rw [← event] at took ⊢
  refine ⟨chosen.decided (took none), chosen.others true nofun (took (some true)), ?_⟩
  obtain ⟨n, later, step, carries, names, unaware⟩ := chosen.gaveUp (by decide +kernel)
  have second := List.mem_map_of_mem (f := (·.event)) later
  rw [event'] at second
  refine ⟨n, ?_, List.mem_singleton.1 second, unaware⟩
  rw [room]
  exact List.mem_cons_of_mem _ later

/-- **Two Readys at the same time.** Two devices of Bob say that they are ready without knowing of
each other. Alice settles on the first one, which is ready then; it gives up once it takes the Ready
of the other one, as the other one does, and Alice is left alone. -/
theorem ready_race_gives_up :
    (∀ x ∈ sampleBoth, sampleInvitation.Allows x) ∧
      (sampleInvitation.run sampleBoth).room.map (·.event) =
        [sampleAnswerOf false, sampleAnswerOf true] ∧
      ((sampleInvitation.run sampleBoth).guests none).verification.theirDevice = some "BOB1" ∧
      ((sampleInvitation.run sampleBoth).guests none).verification.state = .ready [.sas] ∧
      ((sampleInvitation.run (sampleBoth.take 7)).guests (some false)).verification.state =
        .ready [.sas] ∧
      ∀ second, ((sampleInvitation.run sampleBoth).guests (some second)).verification.state =
        .acceptedByOtherDevice := by
  refine ⟨allows_sampleBoth, ?_⟩
  decide +kernel

end

end DeviceVerification.Peers
