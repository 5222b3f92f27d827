import Mathlib.Data.List.Basic
import Mathlib.Data.List.Induction
import DeviceVerification.Proofs.Log
import DeviceVerification.Trust.Store

/-!
# Trust and its history

A trust store is asked to record keys and to trust them, in any order. What it says about a key is a
fact about the calls so far: the key is trusted if and only if a request to trust it was granted
after it was last recorded, and then the request gave the value that is on record
(`trust_is_granted`). A request is granted as a whole or refused as a whole, and one that is refused
leaves every record as it was. Every record that such calls make is `Filed` under the id of its key,
which names its device or, for a master key, the value itself.
-/

namespace DeviceVerification

namespace Dictionary

variable {α : Type} {d : Dictionary α} {value : α}

/-- The values are what the keys look up. -/
theorem mem_values_iff : value ∈ d.values ↔ ∃ key, d.get? key = some value := by
  constructor
  · intro mem
    obtain ⟨e, listed, rfl⟩ := List.mem_map.1 mem
    exact ⟨e.1, mem_entries_iff.1 listed⟩
  · rintro ⟨key, found⟩
    exact List.mem_map.2 ⟨(key, value), mem_entries_iff.2 found, rfl⟩

end Dictionary

/-- A record is filed under an id: it is a key of a device or a master key, and has this id. -/
inductive KnownKey.Filed (id : String) : KnownKey → Prop where
  | device {device : String} (value : String) (trusted : Bool) (named : "ed25519:" ++ device = id) :
      Filed id ⟨.ofDevice device value, some device, trusted⟩
  | master {value : String} (trusted : Bool) (named : "ed25519:" ++ value = id) :
      Filed id ⟨.ofMaster value, none, trusted⟩

theorem KnownKey.Filed.keyId_eq {id : String} {known : KnownKey} (h : known.Filed id) :
    known.key.keyId = id := by
  cases h with
  | device value trusted named => exact named
  | master trusted named => exact named

namespace TrustStore

variable {s : TrustStore} {user other keyId id : String} {key : VerifiableKey}
  {keys : List VerifiableKey} {known : KnownKey}

/-- The record of a key of a user. -/
def known? (s : TrustStore) (user keyId : String) : Option KnownKey := (s.keysOf user).get? keyId

theorem isTrusted_iff :
    s.isTrusted user keyId = true ↔
      ∃ known, s.known? user keyId = some known ∧ known.trusted = true := by
  unfold isTrusted known?
  cases (s.keysOf user).get? keyId <;> simp

/-! ## Recording -/

theorem keysOf_insert (keys : Dictionary KnownKey) :
    (TrustStore.mk (s.users.insert user keys)).keysOf other =
      if other = user then keys else s.keysOf other := by
  rw [keysOf, Dictionary.get?_insert]
  split <;> rfl

/-- Recording a key replaces what is filed under its id, and nothing else. -/
theorem known?_record (s : TrustStore) (user : String) (device : Option String)
    (key : VerifiableKey) (other id : String) :
    (s.record user device key).known? other id =
      if other = user ∧ id = key.keyId then some ⟨key, device, false⟩ else s.known? other id := by
  rw [known?, record, keysOf_insert]
  by_cases same : other = user
  · subst same
    rw [if_pos rfl, Dictionary.get?_insert]
    simp [known?]
  · rw [if_neg same, if_neg fun h => same h.1]
    rfl

/-! ## Trusting -/

theorem isKnown_iff {keys : Dictionary KnownKey} :
    isKnown keys key = true ↔
      ∃ known, keys.get? key.keyId = some known ∧ known.key.value = key.value := by
  unfold isKnown
  cases keys.get? key.keyId with
  | none => simp
  | some known => simp

/-- Marking a key changes nothing but whether it is trusted. -/
theorem get?_mark (keys : Dictionary KnownKey) (key : VerifiableKey) (id : String) :
    (mark keys key).get? id =
      (keys.get? id).map fun known =>
        if key.keyId = id then { known with trusted := true } else known := by
  unfold mark
  cases found : keys.get? key.keyId with
  | none =>
    by_cases same : key.keyId = id
    · rw [← same, found]
      rfl
    · simp [same]
  | some known =>
    by_cases same : key.keyId = id
    · subst same
      simp [found]
    · simp [same, Ne.symm same]

/-- Marking keys one after the other. -/
theorem get?_foldl_mark (marked : List VerifiableKey) (keys : Dictionary KnownKey) (id : String) :
    (marked.foldl mark keys).get? id =
      (keys.get? id).map fun known =>
        if id ∈ marked.map (·.keyId) then { known with trusted := true } else known := by
  induction marked generalizing keys with
  | nil => simp
  | cons key rest ih =>
    rw [List.foldl_cons, ih, get?_mark, Option.map_map]
    congr 1
    funext known
    by_cases first : key.keyId = id
    · simp [first]
    · simp [first, Ne.symm first]

/-- A key is on record with the value that it is said to have. -/
def Agrees (s : TrustStore) (user : String) (key : VerifiableKey) : Prop :=
  ∃ known, s.known? user key.keyId = some known ∧ known.key.value = key.value

/-- The user has records, and they agree with all the keys: what a request to trust keys is granted
for. -/
def Accepts (s : TrustStore) (user : String) (keys : List VerifiableKey) : Prop :=
  (s.users.get? user).isSome = true ∧ ∀ key ∈ keys, s.Agrees user key

/-- A request to trust keys is granted if all of them are known, or it is refused. -/
theorem setTrusted_cases (s : TrustStore) (user : String) (keys : List VerifiableKey) :
    (s.Accepts user keys ∧
        s.setTrusted user keys = .ok ⟨s.users.insert user (keys.foldl mark (s.keysOf user))⟩) ∨
      ¬s.Accepts user keys ∧ ∃ id, s.setTrusted user keys = .error (.unknownKey user id) := by
  unfold setTrusted
  cases found : s.users.get? user with
  | none => exact .inr ⟨fun accepts => by simp [Accepts, found] at accepts, _, rfl⟩
  | some known =>
    have records : s.keysOf user = known := by rw [keysOf, found]; rfl
    have agrees (key : VerifiableKey) : s.Agrees user key ↔ isKnown known key = true := by
      rw [isKnown_iff, Agrees, known?, records]
    dsimp only
    split
    · rename_i key refused
      have mem : key ∈ keys := List.mem_of_find?_eq_some refused
      have strange : isKnown known key = false := by simpa using List.find?_some refused
      refine .inr ⟨fun accepts => ?_, _, rfl⟩
      rw [(agrees key).1 (accepts.2 key mem)] at strange
      cases strange
    · rename_i all
      refine .inl ⟨⟨by rw [found]; rfl, fun key mem => ?_⟩, by rw [records]⟩
      exact (agrees key).2 (by simpa using List.find?_eq_none.1 all key mem)

/-! ## Calls -/

/-- What is asked of a trust store. -/
inductive Call where
  | addDeviceKey (user device value : String)
  | setMasterKey (user value : String)
  | setTrusted (user : String) (keys : List VerifiableKey)
  deriving DecidableEq, Repr

/-- The user, the device and the key that a call records. -/
def Call.recorded? : Call → Option (String × Option String × VerifiableKey)
  | .addDeviceKey user device value => some (user, some device, .ofDevice device value)
  | .setMasterKey user value => some (user, none, .ofMaster value)
  | .setTrusted _ _ => none

/-- A call records a key of a user under an id. -/
def Call.Records (user keyId : String) (c : Call) : Prop :=
  ∃ device key, c.recorded? = some (user, device, key) ∧ key.keyId = keyId

/-- The store after a call; one that is refused leaves it alone. -/
def next (s : TrustStore) : Call → TrustStore
  | .addDeviceKey user device value => s.addDeviceKey user device value
  | .setMasterKey user value => s.setMasterKey user value
  | .setTrusted user keys =>
    match s.setTrusted user keys with
    | .ok s => s
    | .error _ => s

/-- The store after calls on one that is new. -/
def after (calls : List Call) : TrustStore := calls.foldl next empty

/-- A call on a store is a request to trust keys of a user, one of them with this id, and it is
granted. -/
def Call.Trusts (s : TrustStore) (user keyId : String) (keys : List VerifiableKey) (c : Call) :
    Prop :=
  c = .setTrusted user keys ∧ keyId ∈ keys.map (·.keyId) ∧ ∃ s', s.setTrusted user keys = .ok s'

/-- A request to trust these keys of a user, one of them with this id, was granted, and no key of
the user was recorded under the id since. -/
def Granted (calls : List Call) (user keyId : String) (keys : List VerifiableKey) : Prop :=
  ∃ before c since, calls = before ++ c :: since ∧ c.Trusts (after before) user keyId keys ∧
    ∀ c ∈ since, ¬c.Records user keyId

theorem after_concat (calls : List Call) (c : Call) :
    after (calls ++ [c]) = (after calls).next c := by
  rw [after, List.foldl_append]
  rfl

theorem Call.Trusts.not_records {c : Call} (h : c.Trusts s user keyId keys) :
    ¬c.Records user keyId := by
  rintro ⟨_, _, recorded, -⟩
  rw [h.1] at recorded
  cases recorded

/-- What a call does to a record: it puts one that is not trusted into its place, it has it
trusted, or it leaves it alone. -/
theorem known?_next (s : TrustStore) (c : Call) (user keyId : String) :
    (∃ device key, c.recorded? = some (user, device, key) ∧ key.keyId = keyId ∧
        (s.next c).known? user keyId = some ⟨key, device, false⟩) ∨
      (∃ keys, c.Trusts s user keyId keys ∧ (∀ key ∈ keys, s.Agrees user key) ∧
        (s.next c).known? user keyId =
          (s.known? user keyId).map ({ · with trusted := true })) ∨
      ¬c.Records user keyId ∧ (∀ keys, ¬c.Trusts s user keyId keys) ∧
        (s.next c).known? user keyId = s.known? user keyId := by
  have recording (user' : String) (device : Option String) (key : VerifiableKey)
      (records : c.recorded? = some (user', device, key))
      (same : s.next c = s.record user' device key) :
      (∃ device key, c.recorded? = some (user, device, key) ∧ key.keyId = keyId ∧
          (s.next c).known? user keyId = some ⟨key, device, false⟩) ∨
        ¬c.Records user keyId ∧ (∀ keys, ¬c.Trusts s user keyId keys) ∧
          (s.next c).known? user keyId = s.known? user keyId := by
    rw [same, known?_record]
    by_cases hit : user = user' ∧ keyId = key.keyId
    · obtain ⟨rfl, rfl⟩ := hit
      exact .inl ⟨device, key, records, rfl, if_pos ⟨rfl, rfl⟩⟩
    · refine .inr ⟨?_, ?_, if_neg hit⟩
      · rintro ⟨_, _, recorded, rfl⟩
        cases records.symm.trans recorded
        exact hit ⟨rfl, rfl⟩
      · rintro _ ⟨rfl, -⟩
        cases records
  cases c with
  | addDeviceKey user' device value => exact (recording _ _ _ rfl rfl).imp_right .inr
  | setMasterKey user' value => exact (recording _ _ _ rfl rfl).imp_right .inr
  | setTrusted user' keys =>
    have silent : ¬(Call.setTrusted user' keys).Records user keyId := by
      rintro ⟨_, _, recorded, -⟩
      cases recorded
    refine .inr ?_
    obtain ⟨accepts, granted⟩ | ⟨-, id, refused⟩ := s.setTrusted_cases user' keys
    · have same : s.next (.setTrusted user' keys) =
          ⟨s.users.insert user' (keys.foldl mark (s.keysOf user'))⟩ := by simp [next, granted]
      rw [same, known?, keysOf_insert]
      by_cases hit : user = user' ∧ keyId ∈ keys.map (·.keyId)
      · obtain ⟨rfl, listed⟩ := hit
        refine .inl ⟨keys, ⟨rfl, listed, _, granted⟩, accepts.2, ?_⟩
        rw [if_pos rfl, get?_foldl_mark]
        simp [listed, known?]
      · refine .inr ⟨silent, ?_, ?_⟩
        · rintro _ ⟨trusts, listed, -⟩
          cases trusts
          exact hit ⟨rfl, listed⟩
        · split
          · rename_i sameUser
            subst sameUser
            have absent : keyId ∉ keys.map (·.keyId) := fun listed => hit ⟨rfl, listed⟩
            rw [get?_foldl_mark]
            simp [absent, known?]
          · rfl
    · refine .inr ⟨silent, ?_, by simp [next, refused]⟩
      rintro _ ⟨trusts, -, s', granted⟩
      cases trusts
      cases refused.symm.trans granted

/-! ## Every record is filed -/

/-- All records of a store are filed under their ids. -/
def Filed (s : TrustStore) : Prop :=
  ∀ user id known, s.known? user id = some known → known.Filed id

theorem filed_empty : empty.Filed := nofun

theorem Filed.next (h : s.Filed) (c : Call) : (s.next c).Filed := by
  intro user id known found
  obtain ⟨device, key, records, rfl, same⟩ | ⟨keys, -, -, same⟩ | ⟨-, -, same⟩ :=
    s.known?_next c user id
  · cases same.symm.trans found
    cases c with
    | addDeviceKey | setMasterKey =>
      cases records
      constructor
      rfl
    | setTrusted => cases records
  · obtain ⟨known', before, rfl⟩ := Option.map_eq_some_iff.1 (same.symm.trans found)
    cases h user id known' before with
    | device value trusted named => exact .device value true named
    | master trusted named => exact .master true named
  · exact h user id known (same.symm.trans found)

theorem filed_after (calls : List Call) : (after calls).Filed := by
  induction calls using List.reverseRecOn with
  | nil => exact filed_empty
  | append_singleton calls c ih => exact after_concat calls c ▸ ih.next c

/-- The trusted ids are those under which trusted keys are filed. -/
theorem Filed.trustedKeys_eq (h : s.Filed) (user : String) :
    s.trustedKeys user = ((s.keysOf user).entries.filter (·.2.trusted)).map (·.1) := by
  rw [trustedKeys, Dictionary.values, List.filter_map, List.map_map]
  refine List.map_congr_left fun e mem => ?_
  have found : s.known? user e.1 = some e.2 :=
    Dictionary.mem_entries_iff.1 (List.mem_of_mem_filter mem)
  exact (h user e.1 e.2 found).keyId_eq

theorem Filed.mem_trustedKeys_iff (h : s.Filed) :
    keyId ∈ s.trustedKeys user ↔ s.isTrusted user keyId = true := by
  rw [h.trustedKeys_eq, isTrusted_iff]
  constructor
  · intro mem
    obtain ⟨⟨id, known⟩, listed, rfl⟩ := List.mem_map.1 mem
    obtain ⟨listed, trusted⟩ := List.mem_filter.1 listed
    exact ⟨known, Dictionary.mem_entries_iff.1 listed, trusted⟩
  · rintro ⟨known, found, trusted⟩
    have listed : (keyId, known) ∈ (s.keysOf user).entries := Dictionary.mem_entries_iff.2 found
    exact List.mem_map.2 ⟨_, List.mem_filter.2 ⟨listed, trusted⟩, rfl⟩

/-- The records of a user come in the order of their ids, each id once. -/
theorem Filed.sorted_values (h : s.Filed) (user : String) :
    (s.keysOf user).values.Pairwise fun a b => a.key.keyId < b.key.keyId := by
  rw [Dictionary.values, List.pairwise_map]
  refine (s.keysOf user).sorted.imp_of_mem fun {a b} mem mem' less => ?_
  have filed (e : String × KnownKey) (mem : e ∈ (s.keysOf user).entries) : e.2.Filed e.1 :=
    h user e.1 e.2 (Dictionary.mem_entries_iff.1 mem)
  rwa [(filed a mem).keyId_eq, (filed b mem').keyId_eq]

/-- The trusted ids come in their order, each of them once. -/
theorem Filed.sorted_trustedKeys (h : s.Filed) (user : String) :
    (s.trustedKeys user).Pairwise (· < ·) :=
  List.pairwise_map.2 ((h.sorted_values user).sublist List.filter_sublist)

/-- The keys of a device come in the order of their ids, each id once. -/
theorem Filed.sorted_getKeys (h : s.Filed) (user device : String) :
    (s.getKeys user device).Pairwise fun a b => a.keyId < b.keyId :=
  List.pairwise_map.2 ((h.sorted_values user).sublist List.filter_sublist)

/-! ## What trust goes back to -/

theorem not_granted_nil : ¬Granted [] user keyId keys := by
  rintro ⟨before, c, since, split, -⟩
  simp at split

/-- What a further call means for what was granted. -/
theorem granted_concat {calls : List Call} {c : Call} :
    Granted (calls ++ [c]) user keyId keys ↔
      c.Trusts (after calls) user keyId keys ∨
        ¬c.Records user keyId ∧ Granted calls user keyId keys :=
  exists_since_concat (P := fun before (c : Call) => c.Trusts (after before) user keyId keys)

theorem isTrusted_after_iff (calls : List Call) :
    (after calls).isTrusted user keyId = true ↔ ∃ keys, Granted calls user keyId keys := by
  induction calls using List.reverseRecOn with
  | nil => simp [not_granted_nil, isTrusted, after, empty, keysOf]
  | append_singleton calls c ih =>
    simp only [granted_concat]
    rw [isTrusted_iff] at ih ⊢
    rw [after_concat]
    obtain ⟨device, key, records, id, same⟩ | ⟨keys, trusts, agrees, same⟩ | ⟨silent, idle, same⟩ :=
      (after calls).known?_next c user keyId
    · have recorded : c.Records user keyId := ⟨device, key, records, id⟩
      rw [same]
      refine iff_of_false (by simp) ?_
      rintro ⟨keys, trusts | ⟨silent, -⟩⟩
      · exact trusts.not_records recorded
      · exact silent recorded
    · rw [same]
      refine iff_of_true ?_ ⟨keys, .inl trusts⟩
      obtain ⟨key, mem, rfl⟩ := List.mem_map.1 trusts.2.1
      obtain ⟨known, found, -⟩ := agrees key mem
      exact ⟨_, by rw [found]; rfl, rfl⟩
    · rw [same, ih]
      exact exists_congr fun keys => by simp [idle, silent]

/-- What was granted is what is on record. -/
theorem agrees_of_granted {calls : List Call} (h : Granted calls user keyId keys) :
    ∀ key ∈ keys, key.keyId = keyId → (after calls).Agrees user key := by
  induction calls using List.reverseRecOn with
  | nil => exact absurd h not_granted_nil
  | append_singleton calls c ih =>
    rintro key mem rfl
    have before : (after calls).Agrees user key ∧ ¬c.Records user key.keyId := by
      rcases granted_concat.1 h with trusts | ⟨silent, granted⟩
      · refine ⟨?_, trusts.not_records⟩
        obtain ⟨rfl, -, s', granted⟩ := trusts
        obtain ⟨accepts, -⟩ | ⟨-, id, refused⟩ := (after calls).setTrusted_cases user keys
        · exact accepts.2 key mem
        · cases refused.symm.trans granted
      · exact ⟨ih granted key mem rfl, silent⟩
    obtain ⟨⟨known, found, value⟩, silent⟩ := before
    rw [after_concat, Agrees]
    obtain ⟨device, key', records, id, -⟩ | ⟨-, -, -, same⟩ | ⟨-, -, same⟩ :=
      (after calls).known?_next c user key.keyId
    · exact absurd ⟨device, key', records, id⟩ silent
    · exact ⟨{ known with trusted := true }, by rw [same, found]; rfl, value⟩
    · exact ⟨known, same.trans found, value⟩

/-- A request to trust keys is granted for all of them, or it is refused and leaves every record as
it was. -/
theorem all_or_nothing (s : TrustStore) (user : String) (keys : List VerifiableKey) :
    ((∃ s', s.setTrusted user keys = .ok s') ∧
        ∀ key ∈ keys, (s.next (.setTrusted user keys)).isTrusted user key.keyId = true) ∨
      (∃ e, s.setTrusted user keys = .error e) ∧
        ∀ other id, (s.next (.setTrusted user keys)).known? other id = s.known? other id := by
  obtain ⟨accepts, granted⟩ | ⟨-, id, refused⟩ := s.setTrusted_cases user keys
  · refine .inl ⟨⟨_, granted⟩, fun key mem => ?_⟩
    have trusts : (Call.setTrusted user keys).Trusts s user key.keyId keys :=
      ⟨rfl, List.mem_map_of_mem mem, _, granted⟩
    obtain ⟨known, found, -⟩ := accepts.2 key mem
    rw [isTrusted_iff]
    obtain ⟨_, _, records, -⟩ | ⟨-, -, -, same⟩ | ⟨-, idle, -⟩ :=
      s.known?_next (.setTrusted user keys) user key.keyId
    · cases records
    · exact ⟨_, by rw [same, found]; rfl, rfl⟩
    · exact absurd trusts (idle keys)
  · refine .inr ⟨⟨_, refused⟩, fun other id' => ?_⟩
    simp [next, refused]

/-- **Trust is granted, and lasts until the key is recorded anew.** After any calls on a new store,
a key of a user is trusted if and only if a request to trust it was granted since it was last
recorded; the value in that request is then the one on record. A request is granted for all its keys
or leaves every record as it was. The trusted ids of a user are the ids of exactly these keys, each
of them once. -/
theorem trust_is_granted (calls : List Call) (user keyId : String) :
    ((after calls).isTrusted user keyId = true ↔ ∃ keys, Granted calls user keyId keys) ∧
      (∀ keys, Granted calls user keyId keys →
        ∀ key ∈ keys, key.keyId = keyId → (after calls).Agrees user key) ∧
      (∀ keys, ((∃ s', (after calls).setTrusted user keys = .ok s') ∧
          ∀ key ∈ keys,
            (after (calls ++ [.setTrusted user keys])).isTrusted user key.keyId = true) ∨
        (∃ e, (after calls).setTrusted user keys = .error e) ∧
          ∀ other id, (after (calls ++ [.setTrusted user keys])).known? other id =
            (after calls).known? other id) ∧
      (keyId ∈ (after calls).trustedKeys user ↔ ∃ keys, Granted calls user keyId keys) ∧
      ((after calls).trustedKeys user).Pairwise (· < ·) := by
  have filed : (after calls).Filed := filed_after calls
  refine ⟨isTrusted_after_iff calls, fun keys => agrees_of_granted, fun keys => ?_, ?_,
    filed.sorted_trustedKeys user⟩
  · rw [after_concat]
    exact (after calls).all_or_nothing user keys
  · rw [filed.mem_trustedKeys_iff]
    exact isTrusted_after_iff calls

/-! ### Bob's devices -/

/-- Bob's device gets a new key while it is trusted, and his phone is never trusted. -/
def sampleCalls : List Call :=
  [.addDeviceKey "@bob:x" "PHONE" "phone", .addDeviceKey "@bob:x" "BOB" "old",
    .setTrusted "@bob:x" [.ofDevice "BOB" "old"], .addDeviceKey "@bob:x" "BOB" "new"]

/-- A request with the key of Bob's phone and the old one of his device. -/
def sampleStale : List VerifiableKey := [.ofDevice "PHONE" "phone", .ofDevice "BOB" "old"]

/-- The new key of Bob's device is not trusted, since nobody asked for it yet; a request with the
old one is refused, and leaves his phone as it was. Once the new key is asked for it is trusted, and
whatever was granted agrees with it. -/
theorem trust_is_granted_sample :
    (¬∃ keys, Granted sampleCalls "@bob:x" "ed25519:BOB" keys) ∧
      (after (sampleCalls ++ [.setTrusted "@bob:x" sampleStale])).known? "@bob:x" "ed25519:PHONE" =
        (after sampleCalls).known? "@bob:x" "ed25519:PHONE" ∧
      ∃ keys, Granted (sampleCalls ++ [.setTrusted "@bob:x" [.ofDevice "BOB" "new"]])
          "@bob:x" "ed25519:BOB" keys ∧
        ∀ key ∈ keys, key.keyId = "ed25519:BOB" →
          (after (sampleCalls ++ [.setTrusted "@bob:x" [.ofDevice "BOB" "new"]])).Agrees
            "@bob:x" key := by
  obtain ⟨trusted, -, requests, -⟩ := trust_is_granted sampleCalls "@bob:x" "ed25519:BOB"
  refine ⟨fun granted => absurd (trusted.2 granted) (by decide +kernel), ?_, ?_⟩
  · obtain ⟨-, all⟩ | ⟨-, same⟩ := requests sampleStale
    · exact absurd (all (.ofDevice "BOB" "old") (by decide)) (by decide +kernel)
    · exact same "@bob:x" "ed25519:PHONE"
  · have renewed := trust_is_granted
      (sampleCalls ++ [.setTrusted "@bob:x" [.ofDevice "BOB" "new"]]) "@bob:x" "ed25519:BOB"
    obtain ⟨keys, granted⟩ := renewed.1.1 (by decide +kernel)
    exact ⟨keys, granted, renewed.2.1 keys granted⟩

end TrustStore

end DeviceVerification
