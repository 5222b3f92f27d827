import Mathlib.Data.List.Basic
import DeviceVerification.Sas.Settings

/-!
# The two halves of a negotiation

The side that answers a start chooses from its own lists (`negotiate_eq_some_iff`), and the side
that sent the start checks the choice against its own lists (`isSome_accepted_iff`). The two halves
are written apart; `negotiation_halves_agree` says that they fit for all settings: an answer fails
only where some list has nothing in common, and every answer is accepted as it was chosen.
-/

namespace DeviceVerification.Sas

/-! ## Values in common -/

section Common

variable {α : Type} {ours theirs : List α} {v : α}

/-- Of our values, the first one that the other side has too. -/
structure IsFirstCommon (ours theirs : List α) (v : α) : Prop where
  shared : v ∈ theirs
  first : ∃ before after, ours = before ++ v :: after ∧ ∀ w ∈ before, w ∉ theirs

variable [BEq α] [LawfulBEq α]

theorem firstCommon_eq_some_iff :
    firstCommon ours theirs = some v ↔ IsFirstCommon ours theirs v := by
  rw [firstCommon, List.find?_eq_some_iff_append]
  simp only [List.contains_iff_mem, Bool.not_eq_true', ← Bool.not_eq_true]
  exact ⟨fun ⟨shared, first⟩ => ⟨shared, first⟩, fun h => ⟨h.shared, h.first⟩⟩

theorem firstCommon_eq_none_iff : firstCommon ours theirs = none ↔ theirs.Disjoint ours := by
  rw [firstCommon, List.find?_eq_none]
  simp only [List.contains_iff_mem]
  exact ⟨fun h v mem mem' => h v mem' mem, fun h v mem mem' => h mem' mem⟩

theorem filter_eq_nil_iff_disjoint :
    (ours.filter fun v => theirs.contains v) = [] ↔ theirs.Disjoint ours := by
  rw [List.filter_eq_nil_iff]
  simp only [List.contains_iff_mem]
  exact ⟨fun h v mem mem' => h v mem' mem, fun h v mem mem' => h mem' mem⟩

end Common

namespace Settings

variable {s : Settings} {start : StartContent} {n : Agreement} {accept : AcceptContent}

/-! ## The answering side -/

/-- What an answer chooses: of each list our first value that the start offers, and all forms of
the short string that it offers. -/
structure Chooses (s : Settings) (start : StartContent) (n : Agreement) : Prop where
  hash : IsFirstCommon s.hashes start.hashes n.hash
  keyAgreement : IsFirstCommon s.keyAgreements start.keyAgreements n.keyAgreement
  mac : IsFirstCommon s.macs start.macs n.mac
  sasMethods : n.sasMethods = s.sasMethods.filter (· ∈ start.sasMethods)
  common : n.sasMethods ≠ []

/-- Some list of the start has nothing in common with ours. -/
def IsApart (s : Settings) (start : StartContent) : Prop :=
  start.hashes.Disjoint s.hashes ∨ start.keyAgreements.Disjoint s.keyAgreements ∨
    start.macs.Disjoint s.macs ∨ start.sasMethods.Disjoint s.sasMethods

theorem negotiate_eq_some_iff (method : start.method = .sas) :
    s.negotiate start = some n ↔ s.Chooses start n := by
  rw [negotiate, if_pos method]
  simp only [Option.bind_eq_bind, Option.bind_eq_some_iff, firstCommon_eq_some_iff,
    Option.ite_none_left_eq_some, List.isEmpty_iff, Option.some.injEq]
  constructor
  · rintro ⟨hash, hashes, keyAgreement, keyAgreements, mac, macs, common, rfl⟩
    exact ⟨hashes, keyAgreements, macs, by simp [List.contains_eq_mem], common⟩
  · rintro ⟨hash, keyAgreement, mac, sasMethods, common⟩
    have same : (s.sasMethods.filter fun m => start.sasMethods.contains m) = n.sasMethods := by
      simp [sasMethods, List.contains_eq_mem]
    exact ⟨_, hash, _, keyAgreement, _, mac, same ▸ common, by rw [same]⟩

/-- An answer fails for a lack of common values only. -/
theorem negotiate_eq_none_iff (method : start.method = .sas) :
    s.negotiate start = none ↔ s.IsApart start := by
  rw [negotiate, if_pos method, IsApart, ← firstCommon_eq_none_iff, ← firstCommon_eq_none_iff,
    ← firstCommon_eq_none_iff, ← filter_eq_nil_iff_disjoint]
  cases firstCommon s.hashes start.hashes with
  | none => simp
  | some hash =>
    cases firstCommon s.keyAgreements start.keyAgreements with
    | none => simp
    | some keyAgreement =>
      cases firstCommon s.macs start.macs with
      | none => simp
      | some mac => simp

/-- Two sides that cannot agree on a start of the one cannot agree on a start of the other. -/
theorem negotiate_eq_none_comm (s t : Settings) (device device' : String) :
    s.negotiate (t.startContent device) = none ↔ t.negotiate (s.startContent device') = none := by
  rw [negotiate_eq_none_iff rfl, negotiate_eq_none_iff rfl]
  exact or_congr List.disjoint_comm
    (or_congr List.disjoint_comm (or_congr List.disjoint_comm List.disjoint_comm))

/-! ## The starting side -/

/-- An acceptance that chooses from what we have. -/
structure Covers (s : Settings) (accept : AcceptContent) : Prop where
  hash : accept.hash ∈ s.hashes
  keyAgreement : accept.keyAgreement ∈ s.keyAgreements
  mac : accept.mac ∈ s.macs
  nonempty : accept.sasMethods ≠ []
  sasMethods : ∀ m ∈ accept.sasMethods, m ∈ s.sasMethods

/-- An acceptance of our own start is checked against our own lists. -/
theorem allows_startContent_iff (device : String) :
    s.allows (s.startContent device) accept = true ↔ s.Covers accept := by
  simp only [allows, startContent, Bool.and_self, Bool.and_eq_true, Bool.not_eq_true',
    List.isEmpty_eq_false_iff, List.all_eq_true, List.contains_iff_mem]
  constructor
  · rintro ⟨⟨⟨⟨hash, keyAgreement⟩, mac⟩, nonempty⟩, sasMethods⟩
    exact ⟨hash, keyAgreement, mac, nonempty, sasMethods⟩
  · exact fun h => ⟨⟨⟨⟨h.hash, h.keyAgreement⟩, h.mac⟩, h.nonempty⟩, h.sasMethods⟩

theorem isSome_accepted_iff {device : String} :
    (s.accepted (s.startContent device) accept).isSome ↔ s.Covers accept := by
  rw [← allows_startContent_iff device, accepted]
  split <;> simp_all

/-- The side that started accepts what the other side's agreement answers. -/
theorem accepted_acceptContent {ours theirs : Settings} {device : String}
    (agrees : theirs.negotiate (ours.startContent device) = some n) (text : String) :
    ours.accepted (ours.startContent device) (n.acceptContent text) = some n := by
  have chosen := (negotiate_eq_some_iff rfl).1 agrees
  have covered : ours.Covers (n.acceptContent text) := by
    refine ⟨chosen.hash.shared, chosen.keyAgreement.shared, chosen.mac.shared, chosen.common, ?_⟩
    intro m mem
    have mem : m ∈ theirs.sasMethods.filter (· ∈ ours.sasMethods) := chosen.sasMethods ▸ mem
    simpa using (List.mem_filter.1 mem).2
  rw [accepted, if_pos ((allows_startContent_iff device).2 covered)]
  rfl

/-! ## Both -/

/-- **The two halves of a negotiation fit.** For all settings of two sides, the answer to a start
fails exactly where one of the four lists has no value in common. Otherwise it takes of its own
lists the first hash, key agreement and MAC that the start offers and all forms of the short string
that it offers, and the side that started accepts just that. It accepts nothing but values of its
own lists, and no empty list of forms. -/
theorem negotiation_halves_agree (a b : Settings) (device commitment : String) :
    (b.negotiate (a.startContent device) = none ↔
      a.hashes.Disjoint b.hashes ∨ a.keyAgreements.Disjoint b.keyAgreements ∨
        a.macs.Disjoint b.macs ∨ a.sasMethods.Disjoint b.sasMethods) ∧
    (∀ n, b.negotiate (a.startContent device) = some n →
      IsFirstCommon b.hashes a.hashes n.hash ∧
        IsFirstCommon b.keyAgreements a.keyAgreements n.keyAgreement ∧
        IsFirstCommon b.macs a.macs n.mac ∧
        n.sasMethods = b.sasMethods.filter (· ∈ a.sasMethods) ∧
        a.accepted (a.startContent device) (n.acceptContent commitment) = some n) ∧
    ∀ accept, (a.accepted (a.startContent device) accept).isSome ↔
      accept.hash ∈ a.hashes ∧ accept.keyAgreement ∈ a.keyAgreements ∧ accept.mac ∈ a.macs ∧
        accept.sasMethods ≠ [] ∧ ∀ m ∈ accept.sasMethods, m ∈ a.sasMethods := by
  refine ⟨negotiate_eq_none_iff rfl, fun n agrees => ?_, fun accept => ?_⟩
  · have chosen := (negotiate_eq_some_iff rfl).1 agrees
    exact ⟨chosen.hash, chosen.keyAgreement, chosen.mac, chosen.sasMethods,
      accepted_acceptContent agrees commitment⟩
  · rw [isSome_accepted_iff]
    exact ⟨fun h => ⟨h.hash, h.keyAgreement, h.mac, h.nonempty, h.sasMethods⟩,
      fun ⟨hash, keyAgreement, mac, nonempty, sasMethods⟩ =>
        ⟨hash, keyAgreement, mac, nonempty, sasMethods⟩⟩

/-- A side that prefers algorithms nobody here knows and repeats itself. -/
def sampleGreedy : Settings :=
  ⟨[⟨"sha3"⟩, .sha256, ⟨"md5"⟩, .sha256], [⟨"x448"⟩, .curve25519], [.legacy, .current],
    [⟨"qr"⟩, .emoji, .decimal, .emoji]⟩

/-- A side that has other unknown algorithms, in another order. -/
def samplePlain : Settings :=
  ⟨[⟨"md5"⟩, ⟨"blake3"⟩, .sha256], [.curve25519], [.current, .legacy], [.decimal, .emoji]⟩

/-- The eager side answers the plain one with its own preferences. -/
theorem negotiation_halves_agree_sample :
    sampleGreedy.negotiate (samplePlain.startContent "ALICE") =
        some ⟨.sha256, .curve25519, .legacy, [.emoji, .decimal, .emoji]⟩ ∧
      IsFirstCommon sampleGreedy.hashes samplePlain.hashes .sha256 ∧
      samplePlain.accepted (samplePlain.startContent "ALICE") (Agreement.acceptContent
          ⟨.sha256, .curve25519, .legacy, [.emoji, .decimal, .emoji]⟩ "c") =
        some ⟨.sha256, .curve25519, .legacy, [.emoji, .decimal, .emoji]⟩ := by
  have agrees : sampleGreedy.negotiate (samplePlain.startContent "ALICE") =
      some ⟨.sha256, .curve25519, .legacy, [.emoji, .decimal, .emoji]⟩ := by decide +kernel
  obtain ⟨hash, -, -, -, accepted⟩ :=
    (negotiation_halves_agree samplePlain sampleGreedy "ALICE" "c").2.1 _ agrees
  exact ⟨agrees, hash, accepted⟩

end Settings

end DeviceVerification.Sas
