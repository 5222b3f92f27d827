import Mathlib.Data.List.Perm.Subperm
import DeviceVerification.Proofs.Sas.MacCheck

/-!
# What the list of key ids tells

The MAC over the key ids is one over a single text, the sorted ids with commas between them, and an
id may hold commas of its own. So the text tells the pieces between the commas (`idPieces`) and
nothing else: where an id ends is not in it. `key_ids_are_pinned_up_to_commas` says how much of the
ids is pinned by that. Entries cannot be left out, whatever their ids are, except that the only
entry of a step can go if its id is empty, and ids without commas cannot be exchanged for others
without commas. Ids that are merged with a comma between them, however, leave the list as it was.
-/

namespace DeviceVerification.Sas

/-- The pieces of ids between their commas, in order. No ids read like one that is empty. -/
def idPieces : List String → List (List Char)
  | [] => [[]]
  | ids => ids.flatMap fun keyId => keyId.toList.splitOn ','

variable {ids ids' : List String} {mac mac' : Dictionary String} {keyId : String}

/-! ## The pieces of a list -/

theorem idPieces_of_ne_nil (some : ids ≠ []) :
    idPieces ids = ids.flatMap fun keyId => keyId.toList.splitOn ',' := by
  cases ids with
  | nil => exact absurd rfl some
  | cons => rfl

theorem splitOn_append_comma (before after : List Char) :
    (before ++ ',' :: after).splitOn ',' = before.splitOn ',' ++ after.splitOn ',' :=
  List.splitOnP_append_cons before after (beq_self_eq_true ',')

/-- Joining ids loses where they end and nothing else. -/
theorem splitOn_intercalate (ids : List String) :
    (String.intercalate "," ids).toList.splitOn ',' = idPieces ids := by
  have comma : ",".toList = [','] := rfl
  rw [String.toList_intercalate, comma]
  induction ids with
  | nil => simp [idPieces]
  | cons first rest ih =>
    cases rest with
    | nil => simp [idPieces]
    | cons second rest =>
      rw [List.map_cons, List.map_cons, List.intercalate_cons_cons, ← List.map_cons,
        List.append_assoc, List.singleton_append, splitOn_append_comma, ih]
      rfl

/-- Two lists are the same text just when their ids have the same pieces. -/
theorem keyIdList_eq_iff : keyIdList mac = keyIdList mac' ↔
    idPieces mac.keys = idPieces mac'.keys := by
  rw [← splitOn_intercalate, ← splitOn_intercalate]
  refine ⟨fun same => congrArg (fun list => list.toList.splitOn ',') same, fun same => ?_⟩
  have joined := congrArg (List.intercalate [',']) same
  rwa [List.intercalate_splitOn, List.intercalate_splitOn, String.toList_inj] at joined

/-- Every id has a piece. -/
theorem length_le_pieces (ids : List String) :
    ids.length ≤ (ids.flatMap fun keyId => keyId.toList.splitOn ',').length := by
  induction ids with
  | nil => exact Nat.le_refl 0
  | cons keyId ids ih =>
    have some : 0 < (keyId.toList.splitOn ',').length :=
      List.length_pos_of_ne_nil (List.splitOn_ne_nil _ _)
    rw [List.flatMap_cons, List.length_append, List.length_cons]
    omega

/-- Ids that read like no ids are but an empty one. -/
theorem eq_singleton_of_blank (some : ids ≠ []) (blank : idPieces ids = [[]]) : ids = [""] := by
  rw [idPieces_of_ne_nil some] at blank
  have few : ids.length ≤ 1 := by
    have bound := length_le_pieces ids
    rwa [blank] at bound
  obtain ⟨keyId, rfl⟩ := List.length_eq_one_iff.1
    (Nat.le_antisymm few (List.length_pos_of_ne_nil some))
  rw [List.flatMap_singleton] at blank
  have joined := congrArg (List.intercalate [',']) blank
  rw [List.intercalate_splitOn, List.intercalate_singleton, String.toList_eq_nil_iff] at joined
  rw [joined]

/-! ## Ids without commas -/

/-- Ids without commas are pieces themselves. -/
theorem idPieces_of_plain (some : ids ≠ []) (plain : ∀ keyId ∈ ids, ',' ∉ keyId.toList) :
    idPieces ids = ids.map String.toList := by
  rw [idPieces_of_ne_nil some, List.map_eq_flatMap]
  exact List.flatMap_congr fun keyId mem => List.splitOn_eq_singleton (plain keyId mem)

/-- There are no ids on one side and nothing but an empty one on the other. -/
def Blank (ids ids' : List String) : Prop :=
  ids = [] ∧ ids' = [""] ∨ ids = [""] ∧ ids' = []

/-- Ids without commas are told by their pieces. -/
theorem eq_of_plain (same : idPieces ids = idPieces ids')
    (plain : ∀ keyId ∈ ids ++ ids', ',' ∉ keyId.toList) : ids = ids' ∨ Blank ids ids' := by
  obtain ⟨plain, plain'⟩ := List.forall_mem_append.1 plain
  by_cases none : ids = []
  · subst none
    by_cases none' : ids' = []
    · exact .inl none'.symm
    · exact .inr (.inl ⟨rfl, eq_singleton_of_blank none' same.symm⟩)
  · by_cases none' : ids' = []
    · subst none'
      exact .inr (.inr ⟨eq_singleton_of_blank none same, rfl⟩)
    · rw [idPieces_of_plain none plain, idPieces_of_plain none' plain'] at same
      exact .inl (List.map_injective_iff.2 (fun _ _ => String.toList_inj.1) same)

/-! ## Entries that are left out -/

theorem nodup_keys (mac : Dictionary String) : mac.keys.Nodup := by
  refine (listsIds_keys mac).sorted.imp fun lt => ?_
  rintro rfl
  exact String.lt_irrefl _ lt

/-- It shows in the pieces that an entry was left out. -/
theorem keys_eq_of_left_out (left : mac'.keys ⊆ mac.keys)
    (same : idPieces mac.keys = idPieces mac'.keys) :
    mac.keys = mac'.keys ∨ mac.keys = [""] ∧ mac'.keys = [] := by
  by_cases none' : mac'.keys = []
  · by_cases none : mac.keys = []
    · exact .inl (none.trans none'.symm)
    · rw [none'] at same
      exact .inr ⟨eq_singleton_of_blank none same, none'⟩
  · obtain ⟨keyId, mem⟩ := List.exists_mem_of_ne_nil _ none'
    have none : mac.keys ≠ [] := List.ne_nil_of_mem (left mem)
    obtain ⟨kept, order, inside⟩ := (nodup_keys mac').subperm left
    obtain ⟨missing, parted⟩ := inside.exists_perm_append
    have split : mac.keys.Perm (mac'.keys ++ missing) := parted.trans (order.append_right missing)
    -- There are as many pieces on both sides, so none is left for a missing id.
    have count : (mac.keys.flatMap fun keyId => keyId.toList.splitOn ',').length =
        (mac'.keys.flatMap fun keyId => keyId.toList.splitOn ',').length := by
      rw [← idPieces_of_ne_nil none, ← idPieces_of_ne_nil none', same]
    rw [(split.flatMap_right _).length_eq, List.flatMap_append, List.length_append] at count
    have nothing : missing = [] := by
      have bound := length_le_pieces missing
      exact List.eq_nil_of_length_eq_zero (by omega)
    rw [nothing, List.append_nil] at split
    exact .inl (eq_of_sorted (listsIds_keys mac).sorted (listsIds_keys mac').sorted
      fun _ => split.mem_iff)

/-! ## The check of a list -/

/-- Two lists that differ have the same MAC. -/
structure Collision (secret : SharedSecret) (encoding : MacEncoding) (purpose list list' : String) :
    Prop where
  ne : list ≠ list'
  same : secret.mac list (purpose ++ "KEY_IDS") encoding =
    secret.mac list' (purpose ++ "KEY_IDS") encoding

variable {secret : SharedSecret} {encoding : MacEncoding} {purpose : String} {content : MacContent}
  {known : List VerifiableKey}

/-- A list is let through just when it is the MAC of the ids. -/
theorem checkMac_ne_keyIdList_iff :
    checkMac secret encoding purpose content known ≠ .error .keyIdList ↔
      secret.mac (keyIdList content.mac) (purpose ++ "KEY_IDS") encoding = .ok content.keys := by
  have judged : Judged secret encoding purpose content known
      (checkMac secret encoding purpose content known) := judged_checkMac
  rw [← listGenuine_iff]
  constructor
  · intro passes
    by_contra forged
    exact passes (judged.unique (.listForged forged))
  · intro list refused
    rw [refused] at judged
    cases judged with
    | listForged forged => exact forged list

/-- **The list of key ids pins them up to their commas.** Two dictionaries have the same list just
when the ids of both have the same pieces. Without a comma in any id they have the same ids then,
unless one has none and the other but an empty one; and where the one has no ids that the other
lacks they have the same ids then, unless the only id of the other is empty. Where the MAC of the
list is right for a step, it is right for every step of the same pieces, and wrong for every step of
other ones whose list does not happen to have the same MAC. -/
theorem key_ids_are_pinned_up_to_commas (mac mac' : Dictionary String) :
    (keyIdList mac = keyIdList mac' ↔ idPieces mac.keys = idPieces mac'.keys) ∧
      (keyIdList mac = keyIdList mac' → (∀ keyId ∈ mac.keys ++ mac'.keys, ',' ∉ keyId.toList) →
        mac.keys = mac'.keys ∨ Blank mac.keys mac'.keys) ∧
      (keyIdList mac = keyIdList mac' → mac'.keys ⊆ mac.keys →
        mac.keys = mac'.keys ∨ mac.keys = [""] ∧ mac'.keys = []) ∧
      ∀ (secret : SharedSecret) encoding purpose list known,
        checkMac secret encoding purpose ⟨list, mac⟩ known ≠ .error .keyIdList →
          (idPieces mac.keys = idPieces mac'.keys →
            checkMac secret encoding purpose ⟨list, mac'⟩ known ≠ .error .keyIdList) ∧
          (idPieces mac.keys ≠ idPieces mac'.keys →
            checkMac secret encoding purpose ⟨list, mac'⟩ known = .error .keyIdList ∨
              Collision secret encoding purpose (keyIdList mac) (keyIdList mac')) := by
  refine ⟨keyIdList_eq_iff, fun same plain => eq_of_plain (keyIdList_eq_iff.1 same) plain,
    fun same left => keys_eq_of_left_out left (keyIdList_eq_iff.1 same), ?_⟩
  intro secret encoding purpose list known passes
  have computed := checkMac_ne_keyIdList_iff.1 passes
  refine ⟨fun same => checkMac_ne_keyIdList_iff.2 ?_, fun differ => ?_⟩
  · rw [← keyIdList_eq_iff.2 same]
    exact computed
  · by_cases refused : checkMac secret encoding purpose ⟨list, mac'⟩ known = .error .keyIdList
    · exact .inl refused
    · have computed' := checkMac_ne_keyIdList_iff.1 refused
      exact .inr ⟨mt keyIdList_eq_iff.1 differ, computed.trans computed'.symm⟩

/-- Bob's step, which names two of his keys. -/
def samplePair : Dictionary String := .ofList [("ed25519:A", "1"), ("ed25519:B", "2")]

/-- The same step with its two entries merged into one. -/
def sampleMerged : Dictionary String := .ofList [("ed25519:A,ed25519:B", "1")]

/-- The same step without its second entry. -/
def sampleCut : Dictionary String := .ofList [("ed25519:A", "1")]

/-- What was left out shows in the list, and the list that Bob sent is refused with the rest. -/
theorem key_ids_are_pinned_up_to_commas_sample :
    keyIdList samplePair ≠ keyIdList sampleCut ∧
      ∃ list, checkMac ⟨[]⟩ .unpadded "" ⟨list, samplePair⟩ [] ≠ .error .keyIdList ∧
        checkMac ⟨[]⟩ .unpadded "" ⟨list, sampleCut⟩ [] = .error .keyIdList := by
  obtain ⟨-, -, left, check⟩ := key_ids_are_pinned_up_to_commas samplePair sampleCut
  obtain ⟨list, computed⟩ := SharedSecret.mac_ok ⟨[]⟩ (keyIdList samplePair) ("" ++ "KEY_IDS")
    .unpadded
  have passes : checkMac ⟨[]⟩ .unpadded "" ⟨list, samplePair⟩ [] ≠ .error .keyIdList :=
    checkMac_ne_keyIdList_iff.2 computed
  refine ⟨fun same => ?_, list, passes, ?_⟩
  · have kept := left same (by decide)
    revert kept
    decide
  · refine ((check _ _ _ _ _ passes).2 (by decide)).resolve_right fun collision => ?_
    have same := collision.same
    revert same
    decide +kernel

/-- Two ids that are merged with a comma between them have the list of the two, and no ids have the
list of an empty one. A step whose entries were merged passes the check of its list. -/
theorem merged_ids_keep_the_list :
    keyIdList sampleMerged = keyIdList samplePair ∧ sampleMerged.keys ≠ samplePair.keys ∧
      keyIdList .empty = keyIdList (.ofList [("", "1")]) ∧
      (.empty : Dictionary String).keys ≠ (Dictionary.ofList [("", "1")]).keys ∧
      ∃ list, checkMac ⟨[]⟩ .unpadded "" ⟨list, samplePair⟩ [] ≠ .error .keyIdList ∧
        checkMac ⟨[]⟩ .unpadded "" ⟨list, sampleMerged⟩ [] ≠ .error .keyIdList := by
  have same : keyIdList sampleMerged = keyIdList samplePair := by decide
  obtain ⟨list, computed⟩ := SharedSecret.mac_ok ⟨[]⟩ (keyIdList samplePair) ("" ++ "KEY_IDS")
    .unpadded
  refine ⟨same, by decide, by decide, by decide, list, ?_, ?_⟩
  · exact checkMac_ne_keyIdList_iff.2 computed
  · exact checkMac_ne_keyIdList_iff.2 (same ▸ computed)

end DeviceVerification.Sas
