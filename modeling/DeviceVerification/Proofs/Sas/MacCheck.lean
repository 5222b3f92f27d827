import DeviceVerification.Proofs.Sas.MacExchange

/-!
# What the check of MACs decides

A step of MACs can be faulty in three ways: the MAC of the list is wrong, the MAC of a known key is
wrong, or it names no known key. `Judged` says which fault counts where there are several, and which
keys are verified where there is none. The check comes to nothing else (`mac_check_is_exact`),
whatever ids the step names and however often a key is known.
-/

namespace DeviceVerification

/-- A text is checked against the MAC that it should be. -/
theorem SharedSecret.verifyMac_cases (s : SharedSecret) (input purpose text : String)
    (encoding : MacEncoding) :
    s.mac input purpose encoding = .ok text ∧
        s.verifyMac input purpose encoding text = .ok true ∨
      s.mac input purpose encoding ≠ .ok text ∧
        s.verifyMac input purpose encoding text = .ok false := by
  obtain ⟨actual, computed⟩ := s.mac_ok input purpose encoding
  by_cases same : actual = text
  · subst same
    exact .inl ⟨computed, verifyMac_of_mac computed⟩
  · refine .inr ⟨by simpa [computed] using same, ?_⟩
    simp [verifyMac, computed, Except.map, same]

namespace Sas

/-- The ids of a dictionary in their order. -/
structure ListsIds (mac : Dictionary String) (ids : List String) : Prop where
  sorted : ids.Pairwise (· < ·)
  mem_iff : ∀ keyId, keyId ∈ ids ↔ (mac.get? keyId).isSome

variable (secret : SharedSecret) (encoding : MacEncoding) (purpose : String)
  (content : MacContent) (known : List VerifiableKey)

/-- The MAC of the list is the one of the ids in the step, sorted and joined by commas. -/
def ListGenuine : Prop :=
  ∃ ids, ListsIds content.mac ids ∧
    secret.mac (String.intercalate "," ids) (purpose ++ "KEY_IDS") encoding = .ok content.keys

/-- A key is known under the id, and the entry of the id is not its MAC. -/
def Forged (keyId : String) : Prop :=
  ∃ text k, content.mac.get? keyId = some text ∧ knownKey? known keyId = some k ∧
    secret.mac k.value (purpose ++ keyId) encoding ≠ .ok text

/-- A step without faults, and the keys that it verifies: of every known id in it the key that is
known first, in the order of the ids. -/
structure Accepts (verified : List VerifiableKey) : Prop where
  list : ListGenuine secret encoding purpose content
  entries : ∀ keyId text k, content.mac.get? keyId = some text → knownKey? known keyId = some k →
    secret.mac k.value (purpose ++ keyId) encoding = .ok text
  common : ∃ keyId, (content.mac.get? keyId).isSome ∧ (knownKey? known keyId).isSome
  sorted : verified.Pairwise fun a b => a.keyId < b.keyId
  mem_iff : ∀ k, k ∈ verified ↔
    (content.mac.get? k.keyId).isSome ∧ knownKey? known k.keyId = some k

/-- What a step of MACs comes to. A wrong list counts before a wrong key, the wrong key with the
least id before all other ones. -/
inductive Judged : Except MacFailure (List VerifiableKey) → Prop where
  | accepted {verified : List VerifiableKey}
      (accepts : Accepts secret encoding purpose content known verified) : Judged (.ok verified)
  | listForged (list : ¬ListGenuine secret encoding purpose content) :
      Judged (.error .keyIdList)
  | keyForged {keyId : String} (list : ListGenuine secret encoding purpose content)
      (forged : Forged secret encoding purpose content known keyId)
      (least : ∀ other, Forged secret encoding purpose content known other → keyId ≤ other) :
      Judged (.error (.key keyId))
  | unknown (list : ListGenuine secret encoding purpose content)
      (strange : ∀ keyId, (content.mac.get? keyId).isSome → knownKey? known keyId = none) :
      Judged (.error .nothingVerified)

/-! ## The list -/

variable {secret encoding purpose content known}

theorem mem_keys_iff {mac : Dictionary String} {keyId : String} :
    keyId ∈ mac.keys ↔ (mac.get? keyId).isSome := by
  rw [Option.isSome_iff_exists]
  simp only [← Dictionary.mem_entries_iff, Dictionary.keys, List.mem_map]
  constructor
  · rintro ⟨⟨key, text⟩, mem, rfl⟩
    exact ⟨text, mem⟩
  · rintro ⟨text, mem⟩
    exact ⟨_, mem, rfl⟩

theorem listsIds_keys (mac : Dictionary String) : ListsIds mac mac.keys where
  sorted := List.pairwise_map.2 mac.sorted
  mem_iff _ := mem_keys_iff

/-- What is sorted by ids is determined by its members. -/
theorem eq_of_sorted {α : Type} {id : α → String} {l m : List α}
    (hl : l.Pairwise fun a b => id a < id b) (hm : m.Pairwise fun a b => id a < id b)
    (same : ∀ a, a ∈ l ↔ a ∈ m) : l = m := by
  have irreflexive {a b : α} (lt : id a < id b) : a ≠ b := fun eq => String.lt_irrefl _ (eq ▸ lt)
  refine List.Perm.eq_of_pairwise (fun a b _ _ lt gt => ?_) hl hm ?_
  · exact absurd gt (String.lt_asymm lt)
  · exact (List.perm_ext_iff_of_nodup (hl.imp irreflexive) (hm.imp irreflexive)).2 same

theorem ListsIds.eq_keys {mac : Dictionary String} {ids : List String} (h : ListsIds mac ids) :
    ids = mac.keys :=
  have keys := listsIds_keys mac
  eq_of_sorted h.sorted keys.sorted fun keyId => (h.mem_iff keyId).trans (keys.mem_iff keyId).symm

theorem listGenuine_iff : ListGenuine secret encoding purpose content ↔
    secret.mac (keyIdList content.mac) (purpose ++ "KEY_IDS") encoding = .ok content.keys := by
  constructor
  · rintro ⟨ids, lists, computed⟩
    rwa [lists.eq_keys] at computed
  · exact fun computed => ⟨_, listsIds_keys _, computed⟩

/-! ## The entries -/

/-- The entry of a known key that is not its MAC. -/
def WrongEntry (secret : SharedSecret) (encoding : MacEncoding) (purpose : String)
    (known : List VerifiableKey) (e : String × String) : Prop :=
  ∃ k, knownKey? known e.1 = some k ∧ secret.mac k.value (purpose ++ e.1) encoding ≠ .ok e.2

theorem forged_iff {keyId : String} : Forged secret encoding purpose content known keyId ↔
    ∃ e ∈ content.mac.entries, e.1 = keyId ∧ WrongEntry secret encoding purpose known e := by
  constructor
  · rintro ⟨text, k, entry, found, wrong⟩
    exact ⟨(keyId, text), Dictionary.mem_entries_iff.2 entry, rfl, k, found, wrong⟩
  · rintro ⟨⟨keyId, text⟩, entry, rfl, k, found, wrong⟩
    exact ⟨text, k, Dictionary.mem_entries_iff.1 entry, found, wrong⟩

/-- Without a wrong entry the known keys are verified. -/
theorem checkEntries_of_right {entries : List (String × String)}
    (right : ∀ e ∈ entries, ¬WrongEntry secret encoding purpose known e) :
    checkEntries secret encoding purpose known entries =
      .ok (entries.filterMap fun e => knownKey? known e.1) := by
  refine checkEntries_ok fun e mem k found => ?_
  rcases secret.verifyMac_cases k.value (purpose ++ e.1) e.2 encoding with
    ⟨-, matched⟩ | ⟨wrong, -⟩
  · exact matched
  · exact absurd ⟨k, found, wrong⟩ (right e mem)

/-- The first wrong entry is the one that counts. -/
theorem checkEntries_of_wrong {before after : List (String × String)} {e : String × String}
    (right : ∀ e ∈ before, ¬WrongEntry secret encoding purpose known e)
    (wrong : WrongEntry secret encoding purpose known e) :
    checkEntries secret encoding purpose known (before ++ e :: after) = .error (.key e.1) := by
  induction before with
  | nil =>
    obtain ⟨k, found, ne⟩ := wrong
    have found' : (known.find? fun k => k.keyId == e.1) = some k := found
    rcases secret.verifyMac_cases k.value (purpose ++ e.1) e.2 encoding with
      ⟨eq, -⟩ | ⟨-, unmatched⟩
    · exact absurd eq ne
    · simp [checkEntries, found', unmatched, orRefuse, bind, Except.bind]
  | cons first before ih =>
    have rest := ih fun e mem => right e (List.mem_cons_of_mem _ mem)
    rw [List.cons_append, checkEntries]
    split
    · exact rest
    · rename_i k found
      rcases secret.verifyMac_cases k.value (purpose ++ first.1) first.2 encoding with
        ⟨-, matched⟩ | ⟨ne, -⟩
      · simp [matched, rest, orRefuse, bind, Except.bind]
      · exact absurd ⟨k, found, ne⟩ (right first List.mem_cons_self)

/-- In a sorted list the first wrong entry is the one with the least id. -/
theorem least_of_first {before after : List (String × String)} {e : String × String}
    (split : content.mac.entries = before ++ e :: after)
    (right : ∀ e ∈ before, ¬WrongEntry secret encoding purpose known e) (other : String)
    (forged : Forged secret encoding purpose content known other) : e.1 ≤ other := by
  obtain ⟨e', mem, rfl, wrong⟩ := forged_iff.1 forged
  have sorted := content.mac.sorted
  rw [split] at mem sorted
  rcases List.mem_append.1 mem with earlier | later
  · exact absurd wrong (right e' earlier)
  · rcases List.mem_cons.1 later with rfl | later
    · exact String.le_refl _
    · have lt := (List.pairwise_cons.1 (List.pairwise_append.1 sorted).2.1).1 e' later
      exact String.not_lt.1 (String.lt_asymm lt)

/-! ## The verdict -/

theorem Accepts.not_forged {verified : List VerifiableKey}
    (h : Accepts secret encoding purpose content known verified) (keyId : String) :
    ¬Forged secret encoding purpose content known keyId := by
  rintro ⟨text, k, entry, found, wrong⟩
  exact wrong (h.entries keyId text k entry found)

/-- A forged id is one that the step names and that is known. -/
theorem Forged.common {keyId : String} (h : Forged secret encoding purpose content known keyId) :
    (content.mac.get? keyId).isSome ∧ (knownKey? known keyId).isSome := by
  obtain ⟨text, k, entry, found, -⟩ := h
  simp [entry, found]

/-- A step comes to one thing only. -/
theorem Judged.unique {r r' : Except MacFailure (List VerifiableKey)}
    (h : Judged secret encoding purpose content known r)
    (h' : Judged secret encoding purpose content known r') : r = r' := by
  have familiar {keyId : String}
      (common : (content.mac.get? keyId).isSome ∧ (knownKey? known keyId).isSome) :
      ¬∀ keyId, (content.mac.get? keyId).isSome → knownKey? known keyId = none := fun strange => by
    simp [strange keyId common.1] at common
  cases h with
  | accepted accepts =>
    cases h' with
    | accepted accepts' =>
      congr 1
      exact eq_of_sorted accepts.sorted accepts'.sorted fun k =>
        (accepts.mem_iff k).trans (accepts'.mem_iff k).symm
    | listForged forged => exact absurd accepts.list forged
    | keyForged list forged => exact absurd forged (accepts.not_forged _)
    | unknown list strange => exact absurd strange (familiar accepts.common.choose_spec)
  | listForged forged =>
    cases h' with
    | accepted accepts => exact absurd accepts.list forged
    | listForged => rfl
    | keyForged list | unknown list => exact absurd list forged
  | keyForged list forged least =>
    cases h' with
    | accepted accepts => exact absurd forged (accepts.not_forged _)
    | listForged unlisted => exact absurd list unlisted
    | keyForged list' forged' least' =>
      rw [String.le_antisymm (least _ forged') (least' _ forged)]
    | unknown list' strange => exact absurd strange (familiar forged.common)
  | unknown list strange =>
    cases h' with
    | accepted accepts => exact absurd strange (familiar accepts.common.choose_spec)
    | listForged unlisted => exact absurd list unlisted
    | keyForged list' forged => exact absurd strange (familiar forged.common)
    | unknown => rfl

/-- The entries of a step with a genuine list decide what it comes to. -/
theorem judged_of_list (list : ListGenuine secret encoding purpose content) :
    Judged secret encoding purpose content known (do
      let verified ← checkEntries secret encoding purpose known content.mac.entries
      if verified.isEmpty then .error .nothingVerified else .ok verified) := by
  classical
  cases first : content.mac.entries.find? (WrongEntry secret encoding purpose known ·) with
  | some e =>
    obtain ⟨wrong, before, after, split, right⟩ := List.find?_eq_some_iff_append.1 first
    replace wrong := of_decide_eq_true wrong
    replace right : ∀ e ∈ before, ¬WrongEntry secret encoding purpose known e := by
      simpa using right
    rw [split, checkEntries_of_wrong right wrong]
    refine .keyForged list (forged_iff.2 ⟨e, ?_, rfl, wrong⟩) (least_of_first split right)
    rw [split]
    exact List.mem_append_right _ List.mem_cons_self
  | none =>
    have right : ∀ e ∈ content.mac.entries, ¬WrongEntry secret encoding purpose known e := by
      simpa using first
    rw [checkEntries_of_right right]
    simp only [bind, Except.bind]
    generalize recognised : content.mac.entries.filterMap (fun e => knownKey? known e.1) = verified
    split
    · rename_i nobody
      refine .unknown list fun keyId named => Option.eq_none_iff_forall_not_mem.2 fun k found => ?_
      have same : k.keyId = keyId := keyId_of_known found
      have mem := mem_recognised_iff.2 ⟨same ▸ named, same ▸ found⟩
      rw [recognised, List.isEmpty_iff.1 nobody] at mem
      cases mem
    · rename_i somebody
      obtain ⟨k, mem⟩ := List.exists_mem_of_ne_nil verified (by simpa using somebody)
      have members (k : VerifiableKey) : k ∈ verified ↔
          (content.mac.get? k.keyId).isSome ∧ knownKey? known k.keyId = some k :=
        recognised ▸ mem_recognised_iff
      refine .accepted ⟨list, fun keyId text k entry found => ?_, ⟨k.keyId, ?_⟩,
        recognised ▸ sorted_recognised content.mac known, members⟩
      · by_contra wrong
        exact right _ (Dictionary.mem_entries_iff.2 entry) ⟨k, found, wrong⟩
      · obtain ⟨named, found⟩ := (members k).1 mem
        exact ⟨named, by simp [found]⟩

/-- What the check answers is what the step comes to. -/
theorem judged_checkMac : Judged secret encoding purpose content known
    (checkMac secret encoding purpose content known) := by
  unfold checkMac
  rcases secret.verifyMac_cases (keyIdList content.mac) (purpose ++ "KEY_IDS") content.keys encoding
    with ⟨computed, matched⟩ | ⟨wrong, unmatched⟩
  · simp only [matched, orRefuse, bind, Except.bind, ↓reduceIte]
    exact judged_of_list (listGenuine_iff.2 computed)
  · simp only [unmatched, orRefuse, bind, Except.bind, Bool.false_eq_true, ↓reduceIte]
    exact .listForged fun list => wrong (listGenuine_iff.1 list)

variable (secret encoding purpose content known) in
/-- **The check of MACs is exact.** It answers what the step comes to and nothing else, and it never
fails for a reason of cryptography. -/
theorem mac_check_is_exact :
    (∀ result, checkMac secret encoding purpose content known = result ↔
      Judged secret encoding purpose content known result) ∧
    ∀ e, checkMac secret encoding purpose content known ≠ .error (.crypto e) := by
  have judged : Judged secret encoding purpose content known
      (checkMac secret encoding purpose content known) := judged_checkMac
  refine ⟨fun result => ⟨fun eq => eq ▸ judged, judged.unique⟩, fun e eq => ?_⟩
  rw [eq] at judged
  cases judged

end Sas

end DeviceVerification
