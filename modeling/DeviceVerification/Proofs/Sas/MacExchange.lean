import Mathlib.Data.List.Nodup
import DeviceVerification.Sas.Mac

/-!
# MACs that are sent are accepted

The two sides of the exchange of MACs meet in `checkMac_macContent`: what one side computes over its
keys, the other one accepts under the same secret, encoding and purpose, provided it knows one of
the keys and nothing that contradicts them. What it verifies is described by `Recognised`.
-/

namespace DeviceVerification

namespace SharedSecret

/-- Derivations of a permitted length succeed, with as many bytes as were asked for. -/
theorem derive_ok (s : SharedSecret) (purpose : String) (length : Nat)
    (permitted : length ≤ maxDerivedLength) :
    ∃ bytes, s.derive purpose length = .ok bytes ∧ bytes.length = length := by
  obtain ⟨bytes, derived, asked⟩ := exists_hkdf? s.bytes (utf8 purpose) permitted
  exact ⟨bytes, by rw [derive, derived], asked⟩

/-- A short code can always be derived, and all its bytes are derived ones. -/
theorem shortCode_ok (s : SharedSecret) (purpose : String) :
    ∃ code, s.shortCode purpose = .ok code ∧ s.derive purpose shortCodeLength = .ok code.bytes := by
  obtain ⟨bytes, derived, asked⟩ := s.derive_ok purpose shortCodeLength (by decide)
  refine ⟨ShortCode.ofBytes bytes, by simp [shortCode, derived, Except.map], ?_⟩
  rw [derived, ShortCode.bytes_ofBytes asked]

/-- A MAC can always be computed. -/
theorem mac_ok (s : SharedSecret) (input purpose : String) (encoding : MacEncoding) :
    ∃ text, s.mac input purpose encoding = .ok text := by
  obtain ⟨key, derived, -⟩ := s.derive_ok purpose keyLength (by decide)
  exact ⟨encoding.write (hmac key (utf8 input)), by simp [mac, derived, Except.map]⟩

/-- The MAC of an input is accepted for it. -/
theorem verifyMac_of_mac {s : SharedSecret} {input purpose text : String} {encoding : MacEncoding}
    (computed : s.mac input purpose encoding = .ok text) :
    s.verifyMac input purpose encoding text = .ok true := by
  simp [verifyMac, computed, Except.map]

end SharedSecret

namespace Sas

variable (secret : SharedSecret) (encoding : MacEncoding) (purpose : String)

/-- The entries are MACs of the given keys, and every one of the keys has one. -/
structure Authenticates (keys : List VerifiableKey) (mac : Dictionary String) : Prop where
  sound : ∀ keyId text, mac.get? keyId = some text →
    ∃ k ∈ keys, k.keyId = keyId ∧ secret.mac k.value (purpose ++ keyId) encoding = .ok text
  complete : ∀ k ∈ keys, (mac.get? k.keyId).isSome

variable {secret encoding purpose}

/-- Without keys there are no entries. -/
theorem Authenticates.empty : Authenticates secret encoding purpose [] .empty where
  sound keyId text found := by
    rw [Dictionary.get?_empty] at found
    cases found
  complete k mem := by cases mem

theorem Authenticates.insert {keys : List VerifiableKey} {mac : Dictionary String}
    (h : Authenticates secret encoding purpose keys mac) {key : VerifiableKey} {text : String}
    (computed : secret.mac key.value (purpose ++ key.keyId) encoding = .ok text) :
    Authenticates secret encoding purpose (keys ++ [key]) (mac.insert key.keyId text) where
  sound keyId text' found := by
    rw [Dictionary.get?_insert] at found
    split at found
    · rename_i eq
      cases found
      exact ⟨key, by simp, eq.symm, eq ▸ computed⟩
    · obtain ⟨k, mem, rest⟩ := h.sound keyId text' found
      exact ⟨k, List.mem_append_left _ mem, rest⟩
  complete k mem := by
    rw [Dictionary.get?_insert]
    split
    · rfl
    · rename_i ne
      rcases List.mem_append.1 mem with mem | mem
      · exact h.complete k mem
      · exact absurd (by rw [List.mem_singleton.1 mem]) ne

variable (secret encoding purpose) in
/-- The MACs of any keys can be computed, and they authenticate these keys. -/
theorem macEntries_ok (keys : List VerifiableKey) :
    ∃ mac, macEntries secret encoding purpose keys = .ok mac ∧
      Authenticates secret encoding purpose keys mac := by
  -- The induction is on the keys to come; `done` are the ones the dictionary has already.
  have fold : ∀ (keys done : List VerifiableKey) (init : Dictionary String),
      Authenticates secret encoding purpose done init →
      ∃ mac, keys.foldlM (fun mac key => do
          let text ← secret.mac key.value (purpose ++ key.keyId) encoding
          .ok (mac.insert key.keyId text)) init = .ok mac ∧
        Authenticates secret encoding purpose (done ++ keys) mac := by
    intro keys
    induction keys with
    | nil =>
      intro done init h
      exact ⟨init, rfl, by simpa using h⟩
    | cons key keys ih =>
      intro done init h
      obtain ⟨text, computed⟩ := secret.mac_ok key.value (purpose ++ key.keyId) encoding
      obtain ⟨mac, folded, all⟩ := ih (done ++ [key]) _ (h.insert computed)
      refine ⟨mac, ?_, by simpa using all⟩
      rw [List.foldlM_cons, computed]
      exact folded
  exact fold keys [] .empty .empty

variable (secret encoding purpose) in
/-- Any keys can be authenticated. -/
theorem macContent_ok (keys : List VerifiableKey) :
    ∃ content, macContent secret encoding purpose keys = .ok content := by
  obtain ⟨mac, entries, -⟩ := macEntries_ok secret encoding purpose keys
  obtain ⟨list, listed⟩ := secret.mac_ok (keyIdList mac) (purpose ++ "KEY_IDS") encoding
  exact ⟨⟨list, mac⟩, by simp only [macContent, entries, bind, Except.bind, listed]⟩

/-- The key that is known under an id. -/
def knownKey? (known : List VerifiableKey) (keyId : String) : Option VerifiableKey :=
  known.find? fun k => k.keyId == keyId

/-- Entries whose known keys all match are accepted for the keys they name. -/
theorem checkEntries_ok {known : List VerifiableKey} {entries : List (String × String)}
    (matched : ∀ e ∈ entries, ∀ k, knownKey? known e.1 = some k →
      secret.verifyMac k.value (purpose ++ e.1) encoding e.2 = .ok true) :
    checkEntries secret encoding purpose known entries =
      .ok (entries.filterMap fun e => knownKey? known e.1) := by
  induction entries with
  | nil => rfl
  | cons e rest ih =>
    obtain ⟨keyId, mac⟩ := e
    have tail := ih fun e mem => matched e (List.mem_cons_of_mem _ mem)
    cases found : knownKey? known keyId with
    | none =>
      have found' : (known.find? fun k => k.keyId == keyId) = none := found
      simp only [checkEntries, found', List.filterMap_cons, found]
      exact tail
    | some key =>
      have found' : (known.find? fun k => k.keyId == keyId) = some key := found
      have head := matched (keyId, mac) List.mem_cons_self key found
      simp only [checkEntries, found', List.filterMap_cons, found, head, orRefuse, tail]
      rfl

/-- The known keys whose ids were authenticated, in the order of their ids. -/
structure Recognised (authenticated known verified : List VerifiableKey) : Prop where
  sorted : verified.Pairwise fun a b => a.keyId < b.keyId
  mem_iff : ∀ k, k ∈ verified ↔ k ∈ known ∧ ∃ k' ∈ authenticated, k'.keyId = k.keyId

/-- What one side knows of the keys of the other: each under one id, nothing that contradicts them,
and at least one of them. -/
structure Acquainted (own known : List VerifiableKey) : Prop where
  unique : (known.map (·.keyId)).Nodup
  agree : ∀ k ∈ own, ∀ k' ∈ known, k.keyId = k'.keyId → k.value = k'.value
  common : ∃ k ∈ own, ∃ k' ∈ known, k.keyId = k'.keyId

/-- Where there is one key, it is enough to know it. -/
theorem Acquainted.single (k : VerifiableKey) : Acquainted [k] [k] :=
  ⟨List.nodup_singleton _, by simp, by simp⟩

theorem keyId_of_known {known : List VerifiableKey} {keyId : String} {k : VerifiableKey}
    (found : knownKey? known keyId = some k) : k.keyId = keyId := by
  simpa using List.find?_some found

theorem knownKey?_eq_some_iff {known : List VerifiableKey} (unique : (known.map (·.keyId)).Nodup)
    {keyId : String} {k : VerifiableKey} :
    knownKey? known keyId = some k ↔ k ∈ known ∧ k.keyId = keyId := by
  constructor
  · intro found
    exact ⟨List.mem_of_find?_eq_some found, keyId_of_known found⟩
  · rintro ⟨mem, rfl⟩
    unfold knownKey?
    obtain ⟨k', found⟩ : ∃ k', (known.find? fun x => x.keyId == k.keyId) = some k' :=
      Option.isSome_iff_exists.1 (List.find?_isSome.2 ⟨k, mem, by simp⟩)
    have same : k'.keyId = k.keyId := keyId_of_known found
    rw [found, List.inj_on_of_nodup_map unique (List.mem_of_find?_eq_some found) mem same]

/-- The known keys that MACs name are in the order of their ids. -/
theorem sorted_recognised (mac : Dictionary String) (known : List VerifiableKey) :
    (mac.entries.filterMap fun e => knownKey? known e.1).Pairwise
      fun a b => a.keyId < b.keyId := by
  refine List.Pairwise.filterMap _ (fun e e' lt k found k' found' => ?_) mac.sorted
  rw [keyId_of_known found, keyId_of_known found']
  exact lt

/-- The known keys that MACs name are the ones that are known first under their ids. -/
theorem mem_recognised_iff {mac : Dictionary String} {known : List VerifiableKey}
    {k : VerifiableKey} : k ∈ mac.entries.filterMap (fun e => knownKey? known e.1) ↔
      (mac.get? k.keyId).isSome ∧ knownKey? known k.keyId = some k := by
  simp only [List.mem_filterMap, Option.isSome_iff_exists, ← Dictionary.mem_entries_iff]
  constructor
  · rintro ⟨⟨keyId, text⟩, entry, found⟩
    obtain rfl := keyId_of_known found
    exact ⟨⟨text, entry⟩, found⟩
  · rintro ⟨⟨text, entry⟩, found⟩
    exact ⟨_, entry, found⟩

/-- The known keys that MACs name are the recognised ones. -/
theorem recognised_of_authenticates {own known : List VerifiableKey} {mac : Dictionary String}
    (h : Authenticates secret encoding purpose own mac) (acquainted : Acquainted own known) :
    Recognised own known (mac.entries.filterMap fun e => knownKey? known e.1) where
  sorted := sorted_recognised mac known
  mem_iff k := by
    rw [mem_recognised_iff, knownKey?_eq_some_iff acquainted.unique]
    constructor
    · rintro ⟨named, mem, -⟩
      obtain ⟨text, found⟩ := Option.isSome_iff_exists.1 named
      obtain ⟨k', mem', same, -⟩ := h.sound _ text found
      exact ⟨mem, k', mem', same⟩
    · rintro ⟨mem, k', mem', same⟩
      exact ⟨same ▸ h.complete k' mem', mem, rfl⟩

variable (secret encoding purpose) in
/-- The MACs of keys can be computed, and whoever is acquainted with the keys verifies the ones it
recognises. -/
theorem checkMac_macContent {own known : List VerifiableKey} (acquainted : Acquainted own known) :
    ∃ content verified, macContent secret encoding purpose own = .ok content ∧
      checkMac secret encoding purpose content known = .ok verified ∧
      Recognised own known verified := by
  obtain ⟨mac, entries, authentic⟩ := macEntries_ok secret encoding purpose own
  obtain ⟨list, listed⟩ := secret.mac_ok (keyIdList mac) (purpose ++ "KEY_IDS") encoding
  have recognised := recognised_of_authenticates authentic acquainted
  have checked : checkEntries secret encoding purpose known mac.entries =
      .ok (mac.entries.filterMap fun e => knownKey? known e.1) := by
    refine checkEntries_ok fun e entry k found => ?_
    obtain ⟨mem, same⟩ := (knownKey?_eq_some_iff acquainted.unique).1 found
    obtain ⟨o, mem', same', computed⟩ := authentic.sound _ _ (Dictionary.mem_entries_iff.1 entry)
    rw [acquainted.agree o mem' k mem (same'.trans same.symm)] at computed
    exact SharedSecret.verifyMac_of_mac computed
  have some_ : (mac.entries.filterMap fun e => knownKey? known e.1).isEmpty = false := by
    obtain ⟨o, mem', k, mem, same⟩ := acquainted.common
    have := (recognised.mem_iff k).2 ⟨mem, o, mem', same⟩
    exact List.isEmpty_eq_false_iff.2 (List.ne_nil_of_mem this)
  refine ⟨⟨list, mac⟩, _, ?_, ?_, recognised⟩
  · simp only [macContent, entries, bind, Except.bind, listed]
  · simp only [checkMac, SharedSecret.verifyMac_of_mac listed, orRefuse, bind, Except.bind,
      ↓reduceIte, checked, some_, Bool.false_eq_true]

end Sas

end DeviceVerification
