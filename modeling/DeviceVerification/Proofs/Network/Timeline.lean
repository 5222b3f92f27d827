import Mathlib.Data.List.Infix
import DeviceVerification.Network.Timeline

/-!
# Histories only grow

A room keeps every entry at its place, so what a reader found from an event on stays the beginning
of what is there (`since_prefix_append`). A decryption that gives one event at most leaves the
entries alone that have settled (`resolve_decrypt`): what a reader took from an entry is what it
holds for good.
-/

namespace DeviceVerification.Timelines

variable {t : Timelines} {roomId roomId' eventId : String} {entry entry' : Entry} {place : Nat}
  {d : Decryption}

/-! ## Entries of a room -/

/-- The entries of a room. -/
def entries (t : Timelines) (roomId : String) : List Entry := (t.rooms.get? roomId).getD []

/-- The entries of a room from an event on. -/
def since (t : Timelines) (roomId eventId : String) : List Entry :=
  (t.entries roomId).dropWhile fun e => e.eventId ≠ eventId

/-- Some room has an event with an id. -/
def Knows (t : Timelines) (eventId : String) : Prop :=
  ∃ room ∈ t.rooms.entries, ∃ entry ∈ room.2, entry.eventId = eventId

instance (t : Timelines) (eventId : String) : Decidable (t.Knows eventId) :=
  inferInstanceAs (Decidable (∃ room ∈ t.rooms.entries, _))

@[simp] theorem entries_append (t : Timelines) (roomId : String) (entry : Entry)
    (roomId' : String) :
    (t.append roomId entry).entries roomId' =
      if roomId' = roomId then t.entries roomId ++ [entry] else t.entries roomId' := by
  unfold entries append
  rw [Dictionary.get?_insert]
  split <;> rfl

@[simp] theorem entries_appendPending (t : Timelines) (roomId eventId roomId' : String) :
    (t.appendPending roomId eventId).entries roomId' =
      (t.append roomId (.pending eventId t.decryptions.length)).entries roomId' := rfl

/-- Reading finds the entries from the event on, if there are any. -/
theorem toOption_readFrom (t : Timelines) (roomId eventId : String) :
    (t.readFrom roomId eventId).toOption.getD [] = t.since roomId eventId := by
  unfold readFrom since entries
  cases t.rooms.get? roomId with
  | none => rfl
  | some entries =>
    simp only [Option.getD_some]
    split
    · rename_i nothing
      exact nothing.symm
    · rfl

theorem mem_entries_of_mem_since (h : entry ∈ t.since roomId eventId) : entry ∈ t.entries roomId :=
  (List.dropWhile_sublist _).mem h

/-- What is there from an event on stays where it is. -/
theorem since_prefix_append (t : Timelines) (roomId eventId roomId' : String) (entry : Entry) :
    t.since roomId eventId <+: (t.append roomId' entry).since roomId eventId := by
  unfold since
  rw [entries_append]
  by_cases same : roomId = roomId'
  · subst same
    rw [if_pos rfl, List.dropWhile_append]
    split
    · rename_i nothing
      rw [List.isEmpty_iff.1 nothing]
      exact List.nil_prefix
    · exact List.prefix_append _ _
  · rw [if_neg same]

/-- Only what is appended to the room is new in it. -/
theorem mem_since_append (h : entry ∈ (t.append roomId' entry').since roomId eventId) :
    entry ∈ t.since roomId eventId ∨ entry = entry' := by
  unfold since at h ⊢
  rw [entries_append] at h
  by_cases same : roomId = roomId'
  · subst same
    rw [if_pos rfl, List.dropWhile_append] at h
    split at h
    · exact .inr (List.mem_singleton.1 ((List.dropWhile_sublist _).mem h))
    · rcases List.mem_append.1 h with old | new
      · exact .inl old
      · exact .inr (List.mem_singleton.1 new)
  · rw [if_neg same] at h
    exact .inl h

theorem knows_of_mem_entries (h : entry ∈ t.entries roomId) : t.Knows entry.eventId := by
  unfold entries at h
  cases found : t.rooms.get? roomId with
  | none =>
    rw [found] at h
    cases h
  | some entries =>
    rw [found] at h
    exact ⟨_, Dictionary.mem_entries_iff.2 found, entry, h, rfl⟩

/-! ## Decryptions -/

/-- A decryption has a place for the result of an entry that waits for one. -/
def Places (t : Timelines) : Entry → Prop
  | .event _ => True
  | .pending _ place => place < t.decryptions.length

/-- All entries of all rooms have a place for their results. -/
def Sound (t : Timelines) : Prop := ∀ roomId, ∀ entry ∈ t.entries roomId, t.Places entry

theorem sound_empty : empty.Sound := by
  intro roomId entry mem
  cases mem

theorem Sound.append (h : t.Sound) (roomId : String) (e : RoomEvent) :
    (t.append roomId (.event e)).Sound := by
  intro roomId' entry mem
  rw [entries_append] at mem
  split at mem
  · rcases List.mem_append.1 mem with old | new
    · exact h roomId entry old
    · rw [List.mem_singleton.1 new]
      trivial
  · exact h roomId' entry mem

theorem Places.appendPending (h : t.Places entry) (roomId eventId : String) :
    (t.appendPending roomId eventId).Places entry := by
  cases entry with
  | event e => trivial
  | pending id place =>
    have room : place < t.decryptions.length := h
    show place < (t.decryptions ++ [_]).length
    rw [List.length_append]
    omega

theorem Sound.appendPending (h : t.Sound) (roomId eventId : String) :
    (t.appendPending roomId eventId).Sound := by
  intro roomId' entry mem
  rw [entries_appendPending, entries_append] at mem
  split at mem
  · rcases List.mem_append.1 mem with old | new
    · exact (h roomId entry old).appendPending roomId eventId
    · rw [List.mem_singleton.1 new]
      show t.decryptions.length < (t.decryptions ++ [_]).length
      rw [List.length_append]
      exact Nat.lt_succ_self _
  · exact (h roomId' entry mem).appendPending roomId eventId

theorem Sound.decrypt (h : t.Sound) (place : Nat) (d : Decryption) : (t.decrypt place d).Sound := by
  intro roomId entry mem
  have places := h roomId entry mem
  cases entry with
  | event e => trivial
  | pending id place' =>
    show place' < (t.decryptions.set place d).length
    rw [List.length_set]
    exact places

/-- A decryption may still come further, and an event that it gave stays. -/
def Advances (t : Timelines) (place : Nat) (d : Decryption) : Prop :=
  ∃ old ∈ t.decryptions[place]?, old.isOpen = true ∧ (old.event = none ∨ d.event = old.event)

instance (t : Timelines) (place : Nat) (d : Decryption) : Decidable (t.Advances place d) :=
  inferInstanceAs (Decidable (∃ old ∈ t.decryptions[place]?, _))

theorem resolve_congr {t' : Timelines}
    (same : t'.decryptions[place]? = t.decryptions[place]?) (eventId : String) :
    t'.resolve (.pending eventId place) = t.resolve (.pending eventId place) := by
  simp only [resolve, same]

@[simp] theorem resolve_append (t : Timelines) (roomId : String) (e : Entry) (entry : Entry) :
    (t.append roomId e).resolve entry = t.resolve entry := by
  cases entry <;> rfl

/-- A new entry that is being decrypted is no result for the others. -/
theorem resolve_appendPending (h : t.Places entry) (roomId eventId : String) :
    (t.appendPending roomId eventId).resolve entry = t.resolve entry := by
  cases entry with
  | event e => rfl
  | pending id place =>
    have room : place < t.decryptions.length := h
    exact resolve_congr (List.getElem?_append_left room) id

/-- What has become of an entry is not changed by a decryption that comes further. -/
theorem resolve_decrypt (advances : t.Advances place d) (settled : t.resolve entry ≠ .waiting) :
    (t.decrypt place d).resolve entry = t.resolve entry := by
  obtain ⟨old, mem, isOpen, kept⟩ := advances
  have found : t.decryptions[place]? = some old := mem
  cases entry with
  | event e => rfl
  | pending id place' =>
    by_cases same : place = place'
    · subst same
      have new : (t.decrypt place d).decryptions[place]? = some d :=
        List.getElem?_set_self (List.getElem?_eq_some_iff.1 found).1
      obtain ⟨event, isOpen'⟩ := old
      obtain rfl : isOpen' = true := isOpen
      simp only [resolve, found] at settled
      simp only [resolve, found, new]
      cases event with
      | none => simp at settled
      | some e =>
        have given : d.event = some e := by simpa using kept
        obtain ⟨event', isOpen''⟩ := d
        obtain rfl : event' = some e := given
        rfl
    · exact resolve_congr (List.getElem?_set_ne same) id

/-- The event of an entry, once it is known. -/
def event? (t : Timelines) (entry : Entry) : Option RoomEvent :=
  match t.resolve entry with
  | .event e => some e
  | _ => none

theorem event?_eq_some_iff {e : RoomEvent} :
    t.event? entry = some e ↔ t.resolve entry = .event e := by
  unfold event?
  split <;> simp_all

end DeviceVerification.Timelines
