import DeviceVerification.Service.Follower

/-!
# What an event means to a device

Of all that is in a room, steps on the request of a verification are its concern. Those of our own
user tell of our other devices, if they name one, and are our own otherwise; those of the
counterpart are received. `operationOf_eq` puts that in terms of the steps alone, and what follows
is how it is used.
-/

namespace DeviceVerification

/-- The step of a user on a request that an event has, if it has one. -/
def stepOf? (user eventId : String) (e : RoomEvent) : Option Step :=
  match e.message with
  | some (.step relatesTo step) =>
    if relatesTo = eventId ∧ e.sender = user then some step else none
  | _ => none

/-- A step names a device, and it is not ours. -/
def NamesOther (reader : Identity) (step : Step) : Prop :=
  ∃ device ∈ step.fromDevice?, device ≠ reader.device

instance (reader : Identity) (step : Step) : Decidable (NamesOther reader step) :=
  inferInstanceAs (Decidable (∃ device ∈ step.fromDevice?, device ≠ reader.device))

variable {reader : Identity} {v : Verification} {source source' : EventSource} {e : RoomEvent}
  {step : Step}

theorem stepOf?_eq_some_iff {user eventId : String} :
    stepOf? user eventId e = some step ↔
      e.message = some (.step eventId step) ∧ e.sender = user := by
  unfold stepOf?
  split
  · rename_i relatesTo step' message
    rw [message]
    simp only [Option.ite_none_right_eq_some, Option.some.injEq, ConversationMessage.step.injEq]
    constructor
    · rintro ⟨⟨rfl, sender⟩, rfl⟩
      exact ⟨⟨rfl, rfl⟩, sender⟩
    · rintro ⟨⟨rfl, rfl⟩, sender⟩
      exact ⟨⟨rfl, sender⟩, rfl⟩
  · rename_i other
    constructor
    · intro none
      cases none
    · rintro ⟨message, -⟩
      exact absurd message (other _ _)

theorem not_namesOther_iff :
    ¬NamesOther reader step ↔
      ∀ device, step.fromDevice? = some device → device = reader.device := by
  unfold NamesOther
  constructor
  · intro ours device named
    exact Decidable.byContradiction fun other => ours ⟨device, named, other⟩
  · intro ours other
    obtain ⟨device, named, different⟩ := other
    exact different (ours device named)

/-- What an event does: a step of our own user has us stand down if it names another device, and is
restored from the history otherwise; a step of the counterpart is received. -/
theorem operationOf_eq (reader : Identity) (v : Verification) (source : EventSource)
    (e : RoomEvent) :
    operationOf reader v source e =
      match stepOf? reader.user v.transaction.id e with
      | some step =>
        if NamesOther reader step then some .yieldToOtherDevice
        else
          match source with
          | .history => some (.replay step)
          | .live => none
      | none => (stepOf? v.theirUser v.transaction.id e).map (.receive none) := by
  unfold operationOf stepOf?
  cases e.message with
  | none => rfl
  | some message =>
    cases message with
    | request => rfl
    | step relatesTo step =>
      by_cases ours : relatesTo = v.transaction.id
      · by_cases own : e.sender = reader.user
        · have names : NamesOther reader step ↔
              ∃ device, step.fromDevice? = some device ∧ device ≠ reader.device := Iff.rfl
          cases source <;> grind
        · grind
      · simp [ours]

/-- Only steps of our own user are restored. -/
theorem stepOf?_of_replay (h : operationOf reader v source e = some (.replay step)) :
    stepOf? reader.user v.transaction.id e = some step := by
  rw [operationOf_eq] at h
  split at h
  · rename_i step' own
    split at h
    · cases h
    · cases source with
      | history =>
        cases h
        exact own
      | live => cases h
  · obtain ⟨step', -, same⟩ := Option.map_eq_some_iff.1 h
    cases same

/-- Whatever is no step of our own user is the same from both sources. -/
theorem operationOf_of_foreign (foreign : stepOf? reader.user v.transaction.id e = none) :
    operationOf reader v source e =
      (stepOf? v.theirUser v.transaction.id e).map (.receive none) := by
  rw [operationOf_eq, foreign]

/-- A device stands down for another one that our own user's step names, wherever that is from. -/
theorem operationOf_of_namesOther (own : stepOf? reader.user v.transaction.id e = some step)
    (other : NamesOther reader step) :
    operationOf reader v source e = some .yieldToOtherDevice := by
  rw [operationOf_eq, own]
  exact if_pos other

/-- A step of our own device is restored from the history, and is an echo afterwards. -/
theorem operationOf_of_own (own : stepOf? reader.user v.transaction.id e = some step)
    (ours : ¬NamesOther reader step) :
    operationOf reader v source e =
      match source with
      | .history => some (.replay step)
      | .live => none := by
  rw [operationOf_eq, own]
  exact if_neg ours

end DeviceVerification
