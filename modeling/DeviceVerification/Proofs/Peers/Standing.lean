import DeviceVerification.Proofs.Peers.Chat

/-!
# Where a talk stands

A talk is a list of happenings, but what can follow depends on little of it: where the sides are,
what of that which they told is in the room, and how much of the room each of them saw. A `Standing`
is that. `Stands` ties it to a talk, with one lemma for each kind of happening, and what an
operation of a side leads to is given beside it, so a talk can be followed from turn to turn.
-/

namespace DeviceVerification.Peers

open Verification

/-- Where the sides of a talk are, what they said in the room, and how much of it each of them
saw. -/
structure Standing where
  footing : Role → Footing
  log : List (Role × Step)
  seen : Role → Nat

namespace Standing

variable (s : Standing) (role : Role)

/-- A side saw one more event. -/
def looks : Standing := { s with seen := Function.update s.seen role (s.seen role + 1) }

/-- An operation of a side ended. -/
def turns (o : Outcome) : Standing :=
  { s with footing := Function.update s.footing role ((s.footing role).after o) }

end Standing

namespace Chat

/-- A talk of two honest users in which every event is a step, and where it stands. -/
structure Stands (c : Chat) (t : Talk) (s : Standing) : Prop where
  tracks : c.Tracks t
  footing : ∀ role, (t.sides role).footing = s.footing role
  entries : t.events.map c.entry? = s.log.map some
  seen : t.seen = s.seen

namespace Stands

variable {c : Chat} {t : Talk} {s : Standing} {role : Role} {step : Step} {a : Answers}
  {o : Outcome}

theorem log_eq (h : c.Stands t s) : c.log t.events = s.log := by
  have same : (t.events.map c.entry?).filterMap id = (s.log.map some).filterMap id :=
    congrArg _ h.entries
  rw [List.filterMap_map, List.filterMap_map] at same
  exact same.trans List.filterMap_some

/-- The next event that a side sees. -/
theorem found (h : c.Stands t s) {said : Role × Step} (next : s.log[s.seen role]? = some said) :
    ∃ e, t.events[t.seen role]? = some e ∧ c.entry? e = some said := by
  have entry : (t.events.map c.entry?)[t.seen role]? = some (some said) := by
    rw [h.entries, h.seen, List.getElem?_map, next]
    rfl
  rw [List.getElem?_map] at entry
  exact Option.map_eq_some_iff.1 entry

/-- The same standing, put differently. -/
theorem congr (h : c.Stands t s) {s' : Standing}
    (footing : ∀ role, s.footing role = s'.footing role) (log : s.log = s'.log)
    (seen : ∀ role, s.seen role = s'.seen role) : c.Stands t s' where
  tracks := h.tracks
  footing role := (h.footing role).trans (footing role)
  entries := log ▸ h.entries
  seen := h.seen.trans (funext seen)

theorem verification (h : c.Stands t s) (role : Role) :
    (t.sides role).verification = (s.footing role).verification :=
  congrArg Footing.verification (h.footing role)

/-- A side performs an operation, and may see more of the room. -/
theorem perform (h : c.Stands t s) {op : Operation} {p : Party} {seen : Role → Nat}
    (ends : Verification.perform a op (s.footing role).verification (s.footing role).source = o)
    (performs : p.run = ((t.sides role).perform op a).run)
    (tracks : c.Tracks ⟨Function.update t.sides role p, t.events, seen⟩) :
    c.Stands ⟨Function.update t.sides role p, t.events, seen⟩
      { s.turns role o with seen := seen } := by
  have footing : p.footing = (s.footing role).after o := by
    have ended := Party.footing_perform (h.footing role) ends
    unfold Party.footing Party.verification Party.sent at ended ⊢
    rw [performs]
    exact ended
  refine ⟨tracks, Role.forall_of role ?_ ?_, h.entries, rfl⟩
  · simp [Standing.turns, footing]
  · simpa [Standing.turns, role.other_ne] using h.footing role.other

/-- The user of a side does something. -/
theorem act (h : c.Stands t s) (role : Role) (wish : Wish) (a : Answers) (o : Outcome)
    (ends : Verification.perform a wish.operation (s.footing role).verification
      (s.footing role).source = o) :
    c.Stands (c.after t (.act role wish a)) (s.turns role o) := by
  have tracks := h.tracks.act role wish a
  simp only [after] at tracks ⊢
  rw [h.seen] at tracks ⊢
  exact h.perform ends rfl tracks

/-- The next step of a side becomes an event. -/
theorem post (h : c.Stands t s) (role : Role) (eventId : String) (timestamp : UInt64)
    (next : (s.footing role).told[(saidBy role s.log).length]? = some step) :
    c.Stands (c.after t (.post role eventId timestamp))
      { s with log := s.log ++ [(role, step)] } := by
  have tracks := h.tracks.post role eventId timestamp
  have entry := entry?_eventOf (h.tracks.frank role).terms eventId timestamp step
  rw [← h.log_eq, ← h.footing] at next
  have next : (t.sides role).sent[(saidBy role (c.log t.events)).length]? = some step := next
  simp only [after, next] at tracks ⊢
  exact ⟨tracks, h.footing, by simp [h.entries, entry], h.seen⟩

/-- A side sees what it said itself. -/
theorem overhear (h : c.Stands t s) (role : Role) (a : Answers)
    (next : s.log[s.seen role]? = some (role, step)) :
    c.Stands (c.after t (.see role a)) (s.looks role) := by
  have tracks := h.tracks.see role a
  obtain ⟨e, found, entry⟩ := h.found next
  have inRoom : (role, step) ∈ c.log t.events :=
    List.mem_filterMap.2 ⟨e, List.mem_of_getElem? found, entry⟩
  have nothing : (t.sides role).see (c.identity role) e a = t.sides role := by
    unfold Party.see
    rw [operationOf_of_own (h.tracks.frank role).terms entry
      (h.tracks.harmony.honest role step (h.tracks.said inRoom))]
  simp only [after, found, nothing, Function.update_eq_self] at tracks ⊢
  exact ⟨tracks, h.footing, h.entries, by rw [h.seen]; rfl⟩

/-- A side sees what the other one said. -/
theorem hear (h : c.Stands t s) (role : Role) (a : Answers) (o : Outcome)
    (next : s.log[s.seen role]? = some (role.other, step))
    (ends : Verification.perform a (.receive none step) (s.footing role).verification
      (s.footing role).source = o) :
    c.Stands (c.after t (.see role a)) ((s.turns role o).looks role) := by
  have tracks := h.tracks.see role a
  obtain ⟨e, found, entry⟩ := h.found next
  have means : (t.sides role).see (c.identity role) e a =
      { (t.sides role).perform (.receive none step) a with
        taken := (t.sides role).taken + 1 } := by
    unfold Party.see
    rw [operationOf_of_theirs (h.tracks.frank role).terms entry]
  simp only [after, found, means] at tracks ⊢
  rw [h.seen] at tracks ⊢
  exact h.perform ends rfl tracks

end Stands

end Chat

end DeviceVerification.Peers
