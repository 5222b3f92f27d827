import DeviceVerification.Proofs.Trust.Collision
import DeviceVerification.Proofs.Trust.File

/-!
# All master keys of a user

A user may have several master keys: recording one leaves the earlier ones on record, since each is
filed under its own value. `TrustStore.master_keys_stay` says which of them a store gives: all that
were ever recorded, also before a restart, except those whose value is the name of a device that got
a key since. They are given with the keys of every device of the user, and every one of them can be
trusted.
-/

namespace DeviceVerification.TrustStore

variable {s : TrustStore} {user device value : String} {key : VerifiableKey} {calls : List Call}

/-! ## Master keys on record -/

/-- A master key of a user is on record. -/
def HasMaster (s : TrustStore) (user value : String) : Prop :=
  ∃ trusted, s.Holds user ⟨.ofMaster value, none, trusted⟩

/-- A call gives a key to the device of a user that is named like a value. -/
def Call.Displaces (user value : String) (c : Call) : Prop :=
  ∃ key, c = .addDeviceKey user value key

/-- A master key of a user was recorded, and no device named like it got a key since. -/
def Standing (calls : List Call) (user value : String) : Prop :=
  ∃ before c since, calls = before ++ c :: since ∧ c = .setMasterKey user value ∧
    ∀ c ∈ since, ¬c.Displaces user value

theorem standing_concat {c : Call} :
    Standing (calls ++ [c]) user value ↔
      c = .setMasterKey user value ∨ ¬c.Displaces user value ∧ Standing calls user value :=
  exists_since_concat (P := fun _ (c : Call) => c = .setMasterKey user value)

/-- In a filed store a master key is found under the id that its value makes. -/
theorem Filed.hasMaster_iff (h : s.Filed) :
    s.HasMaster user value ↔ ∃ trusted,
      s.known? user ("ed25519:" ++ value) = some ⟨.ofMaster value, none, trusted⟩ :=
  exists_congr fun _ => h.holds_iff

/-- What a call means for a master key. -/
theorem Filed.hasMaster_next (h : s.Filed) (c : Call) :
    (s.next c).HasMaster user value ↔
      c = .setMasterKey user value ∨ ¬c.Displaces user value ∧ s.HasMaster user value := by
  rw [(h.next c).hasMaster_iff, h.hasMaster_iff]
  obtain ⟨device, key, records, id, same⟩ | ⟨keys, ⟨rfl, -⟩, -, same⟩ | ⟨silent, -, same⟩ :=
    s.known?_next c user ("ed25519:" ++ value)
  · rw [same]
    cases c with
    | addDeviceKey user' device' value' =>
      cases records
      obtain rfl := ownerId_inj.1 id
      simp [Call.Displaces, VerifiableKey.ofMaster, VerifiableKey.ofDevice]
    | setMasterKey user' value' =>
      cases records
      obtain rfl := ownerId_inj.1 id
      simp
    | setTrusted => cases records
  · rw [same]
    cases s.known? user ("ed25519:" ++ value) with
    | none => simp
    | some known =>
      obtain ⟨key, device, trusted⟩ := known
      simp [Call.Displaces]
  · rw [same]
    have other : c ≠ .setMasterKey user value := by
      rintro rfl
      exact silent ⟨none, .ofMaster value, rfl, rfl⟩
    have apart : ¬c.Displaces user value := by
      rintro ⟨key, rfl⟩
      exact silent ⟨some value, .ofDevice value key, rfl, rfl⟩
    simp [other, apart]

theorem hasMaster_after_iff (calls : List Call) :
    (after calls).HasMaster user value ↔ Standing calls user value := by
  induction calls using List.reverseRecOn with
  | nil =>
    refine iff_of_false ?_ ?_
    · rintro ⟨trusted, holds⟩
      cases holds
    · rintro ⟨before, c, since, split, -⟩
      simp at split
  | append_singleton calls c ih =>
    rw [after_concat, (filed_after calls).hasMaster_next, ih, standing_concat]

/-! ## Master keys that are given -/

/-- The master keys that a store gives for a device are those on record. -/
theorem Filed.mem_getKeys_iff (h : s.Filed) :
    key ∈ s.getKeys user device ∧ key.kind = .crossSigningMaster ↔
      ∃ value, key = .ofMaster value ∧ s.HasMaster user value := by
  constructor
  · rintro ⟨given, kind⟩
    obtain ⟨known, mem, rfl⟩ := List.mem_map.1 given
    have holds := List.mem_of_mem_filter mem
    obtain ⟨id, found⟩ := Dictionary.mem_values_iff.1 holds
    cases h user id known found with
    | device => cases kind
    | @master value trusted => exact ⟨value, rfl, trusted, holds⟩
  · rintro ⟨value, rfl, trusted, holds⟩
    exact ⟨List.mem_map.2 ⟨_, List.mem_filter.2 ⟨holds, rfl⟩, rfl⟩, rfl⟩

theorem isSome_of_known? {id : String} {known : KnownKey} (found : s.known? user id = some known) :
    (s.users.get? user).isSome = true := by
  rw [known?, keysOf] at found
  cases users : s.users.get? user with
  | none =>
    rw [users] at found
    cases found
  | some keys => rfl

/-- A request to trust a master key on record is granted, and then it is trusted. -/
theorem HasMaster.trust (has : s.HasMaster user value) (h : s.Filed) :
    ∃ s', s.setTrusted user [.ofMaster value] = .ok s' ∧
      s'.isTrusted user (VerifiableKey.ofMaster value).keyId = true := by
  obtain ⟨trusted, found⟩ := h.hasMaster_iff.1 has
  have accepts : s.Accepts user [.ofMaster value] :=
    ⟨isSome_of_known? found, List.forall_mem_singleton.2 ⟨_, found, rfl⟩⟩
  obtain ⟨-, granted⟩ | ⟨refuses, -⟩ := s.setTrusted_cases user [.ofMaster value]
  · obtain ⟨-, all⟩ | ⟨⟨e, refused⟩, -⟩ := s.all_or_nothing user [.ofMaster value]
    · have marked := all _ List.mem_cons_self
      rw [next, granted] at marked
      exact ⟨_, granted, marked⟩
    · cases refused.symm.trans granted
  · exact absurd accepts refuses

/-- **Master keys add up.** Whatever calls a store gets, and however often it is loaded from its
file in between, the master keys that it gives for a device are all those of the user that were
recorded since a device named like them got a key, and not the most recent one alone. Each key is
given once, in the order of the ids, and every one of these master keys can be trusted. -/
theorem master_keys_stay (events : List Event) (user device : String) :
    ∃ s, lived? events = some s ∧
      (∀ key, key ∈ s.getKeys user device ∧ key.kind = .crossSigningMaster ↔
        ∃ value, key = .ofMaster value ∧ Standing (events.filterMap Event.call?) user value) ∧
      ((s.getKeys user device).Pairwise fun a b => a.keyId < b.keyId) ∧
      ∀ value, Standing (events.filterMap Event.call?) user value →
        ∃ s', s.setTrusted user [.ofMaster value] = .ok s' ∧
          s'.isTrusted user (VerifiableKey.ofMaster value).keyId = true := by
  have filed := filed_after (events.filterMap Event.call?)
  refine ⟨_, lived?_eq events, fun key => ?_, filed.sorted_getKeys user device,
    fun value stands => ?_⟩
  · simp only [filed.mem_getKeys_iff, hasMaster_after_iff]
  · exact HasMaster.trust ((hasMaster_after_iff _).2 stands) filed

/-- Bob's master key is replaced, and his store is loaded from its file. -/
def sampleRenewal : List Event :=
  [.call (.setMasterKey "@bob:x" "M1"), .call (.setMasterKey "@bob:x" "M2"), .restart]

/-- The master key that was replaced can still be trusted. -/
theorem master_keys_stay_sample :
    Standing (sampleRenewal.filterMap Event.call?) "@bob:x" "M1" ∧
      ∃ s s', lived? sampleRenewal = some s ∧ s.setTrusted "@bob:x" [.ofMaster "M1"] = .ok s' ∧
        s'.isTrusted "@bob:x" "ed25519:M1" = true := by
  have stands : Standing (sampleRenewal.filterMap Event.call?) "@bob:x" "M1" := by
    refine ⟨[], _, [.setMasterKey "@bob:x" "M2"], rfl, rfl, ?_⟩
    exact List.forall_mem_singleton.2 nofun
  obtain ⟨s, lived, -, -, trust⟩ := master_keys_stay sampleRenewal "@bob:x" "BOB"
  obtain ⟨s', granted, trusted⟩ := trust "M1" stands
  exact ⟨stands, s, s', lived, granted, trusted⟩

/-- After Bob's master key was replaced, both are given for his device, and the trust in the earlier
one is still there. -/
theorem earlier_master_key_stays :
    (after [.setMasterKey "@bob:x" "M1", .setMasterKey "@bob:x" "M2"]).getKeys "@bob:x" "BOB" =
        [.ofMaster "M1", .ofMaster "M2"] ∧
      (after [.setMasterKey "@bob:x" "M1", .setTrusted "@bob:x" [.ofMaster "M1"],
        .setMasterKey "@bob:x" "M2"]).trustedKeys "@bob:x" = ["ed25519:M1"] := by
  decide +kernel

end DeviceVerification.TrustStore
