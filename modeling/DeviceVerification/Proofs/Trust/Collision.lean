import DeviceVerification.Proofs.Trust.History

/-!
# Keys that share an id

The id of a device's key is made from the name of the device, and the id of a master key from its
value. Recording a key replaces one record, the one under its id (`recording_replaces_one_id`); so
it leaves the keys of all other devices alone, but a device that is named like the value of a master
key of its user shares an id with it, and whichever of the two is recorded last displaces the other
(`namesakes_displace_each_other`).
-/

namespace DeviceVerification

/-- What stands behind the algorithm in the id of a record: its device or, for a master key, its
value. -/
def KnownKey.owner (known : KnownKey) : String := known.device.getD known.key.value

theorem KnownKey.Filed.id_eq {id : String} {known : KnownKey} (h : known.Filed id) :
    id = "ed25519:" ++ known.owner := by
  cases h with
  | device value trusted named => exact named.symm
  | master trusted named => exact named.symm

namespace TrustStore

variable {s : TrustStore} {user other device value id : String} {known : KnownKey}

/-- A user has a record: a key with its value, its device and whether it is trusted. -/
def Holds (s : TrustStore) (user : String) (known : KnownKey) : Prop :=
  known ∈ (s.keysOf user).values

instance (s : TrustStore) (user : String) (known : KnownKey) : Decidable (s.Holds user known) :=
  inferInstanceAs (Decidable (known ∈ (s.keysOf user).values))

/-- In a filed store a record is found under the id of its owner. -/
theorem Filed.holds_iff (h : s.Filed) :
    s.Holds user known ↔ s.known? user ("ed25519:" ++ known.owner) = some known := by
  rw [Holds, Dictionary.mem_values_iff]
  constructor
  · rintro ⟨id, found⟩
    rwa [← (h user id known found).id_eq]
  · exact fun found => ⟨_, found⟩

theorem ownerId_inj {a b : String} : "ed25519:" ++ a = "ed25519:" ++ b ↔ a = b := by
  rw [← String.toList_inj, ← String.toList_inj, String.toList_append, String.toList_append]
  exact List.append_right_inj _

/-- Recording a key for one owner leaves the records of all other owners alone. -/
theorem Filed.holds_next_iff (h : s.Filed) {c : Call} {device : Option String}
    {key : VerifiableKey} {owner : String} (records : c.recorded? = some (user, device, key))
    (named : key.keyId = "ed25519:" ++ owner) (apart : other = user → known.owner ≠ owner) :
    (s.next c).Holds other known ↔ s.Holds other known := by
  rw [(h.next c).holds_iff, h.holds_iff]
  obtain ⟨device', key', recorded, id, -⟩ | ⟨keys, ⟨rfl, -⟩, -⟩ | ⟨-, -, same⟩ :=
    s.known?_next c other ("ed25519:" ++ known.owner)
  · obtain ⟨rfl, -, rfl⟩ : user = other ∧ device = device' ∧ key = key' := by
      simpa using records.symm.trans recorded
    exact absurd (ownerId_inj.1 (id.symm.trans named)) (apart rfl)
  · cases records
  · rw [same]

/-- **Recording a key replaces what is filed under its id, and nothing else.** In every store, a
key of a device and a master key each take the one place of their id, as keys that are not trusted.
So where every record is filed, the keys of all other users stay, and of the same user those of all
other devices and all master keys, except that a master key whose value is the name of the device,
or a device whose name is the value of the master key, has that place. -/
theorem recording_replaces_one_id (s : TrustStore) (user : String) :
    (∀ device value other id, (s.addDeviceKey user device value).known? other id =
      if other = user ∧ id = "ed25519:" ++ device then
        some ⟨.ofDevice device value, some device, false⟩
      else s.known? other id) ∧
    (∀ master other id, (s.setMasterKey user master).known? other id =
      if other = user ∧ id = "ed25519:" ++ master then some ⟨.ofMaster master, none, false⟩
      else s.known? other id) ∧
    (s.Filed → ∀ other known device value, (other = user → known.owner ≠ device) →
      ((s.addDeviceKey user device value).Holds other known ↔ s.Holds other known)) ∧
    (s.Filed → ∀ other known master, (other = user → known.owner ≠ master) →
      ((s.setMasterKey user master).Holds other known ↔ s.Holds other known)) := by
  refine ⟨?_, ?_, ?_, ?_⟩
  · intro device value other id
    exact s.known?_record user (some device) (.ofDevice device value) other id
  · intro master other id
    exact s.known?_record user none (.ofMaster master) other id
  · intro filed other known device value apart
    exact filed.holds_next_iff (c := .addDeviceKey user device value) rfl rfl apart
  · intro filed other known master apart
    exact filed.holds_next_iff (c := .setMasterKey user master) rfl rfl apart

/-- Bob's phone is trusted. -/
def sampleBobStore : TrustStore :=
  after [.addDeviceKey "@bob:x" "PHONE" "k", .setTrusted "@bob:x" [.ofDevice "PHONE" "k"]]

/-- Bob's phone stays trusted when another device of his gets a key and when he gets a master key of
another value. -/
theorem recording_replaces_one_id_sample :
    sampleBobStore.Filed ∧
      (sampleBobStore.addDeviceKey "@bob:x" "BOB" "new").Holds "@bob:x"
        ⟨.ofDevice "PHONE" "k", some "PHONE", true⟩ ∧
      (sampleBobStore.setMasterKey "@bob:x" "M").Holds "@bob:x"
        ⟨.ofDevice "PHONE" "k", some "PHONE", true⟩ := by
  have filed : sampleBobStore.Filed := filed_after _
  obtain ⟨-, -, devices, masters⟩ := recording_replaces_one_id sampleBobStore "@bob:x"
  refine ⟨filed, ?_, ?_⟩
  · exact (devices filed "@bob:x" _ "BOB" "new" fun _ => by decide).2 (by decide +kernel)
  · exact (masters filed "@bob:x" _ "M" fun _ => by decide).2 (by decide +kernel)

/-! ### Namesakes -/

/-- Bob's master key is trusted. -/
def sampleMaster : TrustStore :=
  after [.setMasterKey "@bob:x" "M", .setTrusted "@bob:x" [.ofMaster "M"]]

/-- When a device of Bob that is named like his trusted master key is recorded, the master key is
gone, and none of his devices has one any more. The other way round, the trusted key of his phone is
gone when a master key is recorded whose value is the name of the phone. -/
theorem namesakes_displace_each_other :
    (sampleMaster.Holds "@bob:x" ⟨.ofMaster "M", none, true⟩ ∧
      ¬(sampleMaster.addDeviceKey "@bob:x" "M" "k").Holds "@bob:x" ⟨.ofMaster "M", none, true⟩ ∧
      sampleMaster.getKeys "@bob:x" "BOB" = [.ofMaster "M"] ∧
      (sampleMaster.addDeviceKey "@bob:x" "M" "k").getKeys "@bob:x" "BOB" = []) ∧
    sampleBobStore.Holds "@bob:x" ⟨.ofDevice "PHONE" "k", some "PHONE", true⟩ ∧
      ¬(sampleBobStore.setMasterKey "@bob:x" "PHONE").Holds "@bob:x"
        ⟨.ofDevice "PHONE" "k", some "PHONE", true⟩ := by
  decide +kernel

end TrustStore

end DeviceVerification
