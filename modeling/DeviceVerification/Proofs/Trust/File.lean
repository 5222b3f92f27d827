import DeviceVerification.Proofs.Json.Arrangement
import DeviceVerification.Proofs.Json.Layout
import DeviceVerification.Proofs.Trust.History

/-!
# The file of a store

A store that is saved and loaded again is the same store (`TrustStore.load?_save`), whatever
characters are in the names of its users and devices and in the values of its keys. So it does not
matter when, and how often, a store was loaded from its file (`TrustStore.foldlM_live?`), and
nobody can tell by its answers (`TrustStore.file_keeps_the_store`).
-/

namespace DeviceVerification

open Json (Arrangement Draft Plain)
open Json.Draft (ofJson)

variable (r : Arrangement)

/-! ## Keys -/

@[simp] theorem KeyKind.ofName?_name (k : KeyKind) : ofName? k.name = some k := by
  cases k <;> rfl

namespace VerifiableKey

@[simp] theorem ofDraft?_arranged (k : VerifiableKey) :
    ofDraft? (ofJson (r.apply k.toJson)) = some k := by
  have record := r.record? k.toJson.members (by simp [toJson, Json.members])
  simp only [toJson, Json.members, List.map_cons, List.map_nil] at record
  simp [ofDraft?, toJson, record, Json.Slot.required]

theorem plain_toJson (levels : Nat) (k : VerifiableKey) : Plain (levels + 1) k.toJson :=
  .object (by simp) (by simp [Plain.string])

end VerifiableKey

namespace KnownKey

/-- The device of a record is a text, or null. -/
theorem device_arranged (device : Option String) :
    (Json.Slot.given (ofJson (r.apply ((device.map .string).getD .null)))).optional Draft.text? =
      some device := by
  cases device with
  | none => simp [r.null, ofJson, Json.Slot.optional]
  | some device => simp [r.string, ofJson, Json.Slot.optional, Draft.text?]

theorem ofDraft?_arranged (k : KnownKey) : ofDraft? (ofJson (r.apply k.toJson)) = some k := by
  have record := r.record? k.toJson.members (by simp [toJson, Json.members])
  simp only [toJson, Json.members, List.map_cons, List.map_nil] at record
  simp [ofDraft?, toJson, record, Json.Slot.required, device_arranged]

theorem plain_toJson (levels : Nat) (k : KnownKey) : Plain (levels + 2) k.toJson := by
  have device : Plain (levels + 1) ((k.device.map .string).getD .null) := by
    cases k.device with
    | none => exact .null _
    | some device => exact .string _ device
  exact .object (by simp) (by simp [device, VerifiableKey.plain_toJson, Plain.bool])

end KnownKey

/-! ## Stores -/

namespace TrustStore

theorem ofDraft?_arranged (s : TrustStore) : ofDraft? (ofJson (r.apply s.toJson)) = some s := by
  have record := r.record? s.toJson.members (by simp [toJson, Json.members])
  have users := r.dictionary? (r.dictionary? (KnownKey.ofDraft?_arranged r)) s.users
  simp only [toJson, Json.members, List.map_cons, List.map_nil] at record
  simp [ofDraft?, toJson, record, Json.Slot.required, users]

/-- A file has five levels: the whole, its users, the keys of a user, a record and its key. -/
theorem plain_toJson (levels : Nat) (s : TrustStore) : Plain (levels + 5) s.toJson := by
  have users := Plain.dictionary (Plain.dictionary (KnownKey.plain_toJson levels)) s.users
  exact .object (by simp) (by simpa using users)

/-- **A store is loaded as it was saved.** -/
theorem load?_save (s : TrustStore) : load? s.save = some s := by
  rw [load?, save, Draft.read?_pretty (s.plain_toJson 0), Option.bind_some]
  exact s.ofDraft?_arranged .written

/-- Stores with the same file are the same. -/
theorem save_injective : Function.Injective save := by
  intro s s' same
  have loaded : some s = some s' := by rw [← s.load?_save, same, s'.load?_save]
  exact Option.some.inj loaded

/-! ### Restarts -/

/-- What happens to a store that is kept in a file: it is called, or it is saved and loaded
again. -/
inductive Event where
  | call (c : Call)
  | restart
  deriving DecidableEq, Repr

namespace Event

/-- The call, if it is one. -/
def call? : Event → Option Call
  | .call c => some c
  | .restart => none

end Event

/-- The store after an event, unless its file cannot be loaded. -/
def live? (s : TrustStore) : Event → Option TrustStore
  | .call c => some (s.next c)
  | .restart => load? s.save

/-- The store after events on one that is new. -/
def lived? (events : List Event) : Option TrustStore := events.foldlM live? empty

theorem foldlM_live? (events : List Event) (s : TrustStore) :
    events.foldlM live? s = some ((events.filterMap Event.call?).foldl next s) := by
  induction events generalizing s with
  | nil => rfl
  | cons e rest ih =>
    cases e with
    | call c =>
      rw [List.foldlM_cons]
      exact ih (s.next c)
    | restart =>
      rw [List.foldlM_cons, live?, load?_save]
      exact ih s

/-- Whatever happens to a store, it is the one that only the calls would have made. -/
theorem lived?_eq (events : List Event) :
    lived? events = some (after (events.filterMap Event.call?)) :=
  foldlM_live? events empty

/-- **A store in a file keeps everything.** Loading the text that `save` writes for a store succeeds
and gives a store with the same records, in which the keys of every device, the trust in every key
and the trusted keys of every user are the same. A request to trust keys is granted or refused
alike, with the same error, and leaves the same store; so does every further course of calls. Saved
again, the text is the same. -/
theorem file_keeps_the_store (s : TrustStore) :
    ∃ loaded, load? s.save = some loaded ∧
      (∀ user keyId, loaded.known? user keyId = s.known? user keyId) ∧
      (∀ user device, loaded.getKeys user device = s.getKeys user device) ∧
      (∀ user keyId, loaded.isTrusted user keyId = s.isTrusted user keyId) ∧
      (∀ user, loaded.trustedKeys user = s.trustedKeys user) ∧
      (∀ user keys, loaded.setTrusted user keys = s.setTrusted user keys) ∧
      (∀ calls : List Call, calls.foldl next loaded = calls.foldl next s) ∧
      loaded.save = s.save := by
  refine ⟨s, s.load?_save, ?_⟩
  simp

end TrustStore

end DeviceVerification
