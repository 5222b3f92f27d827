import Mathlib.Data.List.Infix
import DeviceVerification.Proofs.Sas.Change
import DeviceVerification.Proofs.Sas.MacExchange

/-!
# The two directions of the MACs

Both sides derive their MAC keys from one secret, and what tells a MAC from one device to another
from a MAC of the opposite direction is the purpose that it starts with. A purpose has the users and
the devices side by side with no mark between them. So the two directions have one purpose just when
the texts of the two devices can be put in either order (`macPurpose_eq_swap_iff`), and texts that
commute are repetitions of one text (`commute_iff_repeated`). Apart from such devices, nothing that
a side authenticates is authenticated under a purpose that it checks the other side with
(`directions_are_separated_up_to_repetition`).
-/

namespace DeviceVerification

/-! ## Texts that commute -/

section

variable {α : Type} {xs ys zs : List α}

/-- A word, some number of times. -/
def repeated (count : Nat) (word : List α) : List α := (List.replicate count word).flatten

theorem repeated_add (m n : Nat) (word : List α) :
    repeated (m + n) word = repeated m word ++ repeated n word := by
  simp only [repeated, List.replicate_add, List.flatten_append]

theorem repeated_one (word : List α) : repeated 1 word = word := by
  simp [repeated]

/-- The longer one of two words that commute begins with the other one, which commutes with the
rest. -/
theorem exists_rest_of_commute (commute : xs ++ ys = ys ++ xs) (shorter : xs.length ≤ ys.length) :
    ∃ zs, ys = xs ++ zs ∧ xs ++ zs = zs ++ xs := by
  have first : xs <+: xs ++ ys := List.prefix_append xs ys
  have second : ys <+: xs ++ ys := commute ▸ List.prefix_append ys xs
  obtain ⟨zs, rfl⟩ := List.prefix_of_prefix_length_le first second shorter
  refine ⟨zs, rfl, ?_⟩
  rw [List.append_assoc] at commute
  exact List.append_cancel_left commute

/-- Words that commute are repetitions of one word. The induction takes the shorter one off the
longer one, as the search for a common divisor does. -/
theorem exists_repeated_of_commute (commute : xs ++ ys = ys ++ xs) :
    ∃ word m n, xs = repeated m word ∧ ys = repeated n word := by
  induction size : xs.length + ys.length using Nat.strongRecOn generalizing xs ys with
  | ind size ih =>
    subst size
    by_cases none : xs = []
    · exact ⟨ys, 0, 1, none, (repeated_one ys).symm⟩
    by_cases none' : ys = []
    · exact ⟨xs, 1, 0, (repeated_one xs).symm, none'⟩
    have some : 0 < xs.length := List.length_pos_of_ne_nil none
    have some' : 0 < ys.length := List.length_pos_of_ne_nil none'
    rcases Nat.le_total xs.length ys.length with shorter | longer
    · obtain ⟨zs, rfl, rest⟩ := exists_rest_of_commute commute shorter
      have less : xs.length + zs.length < xs.length + (xs ++ zs).length := by
        rw [List.length_append]
        omega
      obtain ⟨word, m, n, first, second⟩ := ih _ less rest rfl
      exact ⟨word, m, m + n, first, by rw [repeated_add, ← first, ← second]⟩
    · obtain ⟨zs, rfl, rest⟩ := exists_rest_of_commute commute.symm longer
      have less : ys.length + zs.length < (ys ++ zs).length + ys.length := by
        rw [List.length_append]
        omega
      obtain ⟨word, n, m, second, first⟩ := ih _ less rest rfl
      exact ⟨word, n + m, n, by rw [repeated_add, ← first, ← second], second⟩

/-- Two words can be put in either order just when they are repetitions of one word. -/
theorem commute_iff_repeated : xs ++ ys = ys ++ xs ↔
    ∃ word m n, xs = repeated m word ∧ ys = repeated n word := by
  refine ⟨exists_repeated_of_commute, ?_⟩
  rintro ⟨word, m, n, rfl, rfl⟩
  rw [← repeated_add, ← repeated_add, Nat.add_comm]

end

/-! ## Purposes -/

/-- What a purpose says of a device: its user and its id, with no mark between them. -/
def Identity.joined (i : Identity) : String := i.user ++ i.device

/-- The texts of two devices are repetitions of one text. -/
def Identity.ShareRoot (a b : Identity) : Prop :=
  ∃ word m n, a.joined.toList = repeated m word ∧ b.joined.toList = repeated n word

namespace Sas

variable {a b : Identity} {transactionId : String}

theorem macPurpose_toList (a b : Identity) (transactionId : String) :
    (macPurpose a b transactionId).toList = "MATRIX_KEY_VERIFICATION_MAC".toList ++
      (a.joined.toList ++ b.joined.toList ++ transactionId.toList) := by
  unfold macPurpose Identity.joined
  simp only [String.toList_append, List.append_assoc]

/-- The purposes of the two directions are of one length. -/
theorem length_macPurpose_swap (a b : Identity) (transactionId : String) :
    (macPurpose a b transactionId).toList.length =
      (macPurpose b a transactionId).toList.length := by
  simp only [macPurpose_toList, List.length_append,
    Nat.add_comm a.joined.toList.length b.joined.toList.length]

/-- The two directions have one purpose just when the texts of the devices share their root. -/
theorem macPurpose_eq_swap_iff :
    macPurpose a b transactionId = macPurpose b a transactionId ↔ a.ShareRoot b := by
  rw [← String.toList_inj, macPurpose_toList, macPurpose_toList, List.append_cancel_left_eq,
    List.append_cancel_right_eq]
  exact commute_iff_repeated

/-- Whatever follows them, purposes of one length begin different texts unless they are the same. -/
theorem append_macPurpose_eq_iff : (∃ id id', macPurpose a b transactionId ++ id =
    macPurpose b a transactionId ++ id') ↔ a.ShareRoot b := by
  constructor
  · rintro ⟨id, id', same⟩
    have texts := congrArg String.toList same
    rw [String.toList_append, String.toList_append] at texts
    have fronts := (List.append_inj texts (length_macPurpose_swap a b transactionId)).1
    exact macPurpose_eq_swap_iff.1 (String.toList_inj.1 fronts)
  · intro shared
    have same : macPurpose a b transactionId = macPurpose b a transactionId :=
      macPurpose_eq_swap_iff.2 shared
    exact ⟨"", "", by rw [same]⟩

/-- **The directions are apart, up to repetition.** The MACs from one device to another and those of
the opposite direction have one purpose just when the texts of the two devices are repetitions of
one text. Where they are not, no purpose under which a machine makes a MAC, of whatever key, is one
under which it checks a MAC of the other side. -/
theorem directions_are_separated_up_to_repetition :
    (∀ a b : Identity, ∀ transactionId : String,
      macPurpose a b transactionId = macPurpose b a transactionId ↔ a.ShareRoot b) ∧
    ∀ m : Machine, (∃ id id', m.ownPurpose ++ id = m.theirPurpose ++ id') ↔
      m.context.own.ShareRoot m.context.their :=
  ⟨fun _ _ _ => macPurpose_eq_swap_iff, fun _ => append_macPurpose_eq_iff⟩

/-- A device of Alice. -/
def sampleShort : Identity := ⟨"@alice:x", "A"⟩

/-- Another device of Alice, whose text is the one of the first, twice. -/
def sampleDoubled : Identity := ⟨"@alice:x", "A@alice:xA"⟩

/-- Between two devices of one user the directions can be the same, and then a device verifies the
master key of that user by the step that it sent itself. -/
theorem doubled_device_turns_macs_around :
    sampleShort ≠ sampleDoubled ∧
      macPurpose sampleShort sampleDoubled "tx" = macPurpose sampleDoubled sampleShort "tx" ∧
      ∃ content verified, macContent ⟨List.replicate 32 1⟩ .unpadded
          (macPurpose sampleShort sampleDoubled "tx") [.ofMaster "master"] = .ok content ∧
        checkMac ⟨List.replicate 32 1⟩ .unpadded (macPurpose sampleDoubled sampleShort "tx") content
          [.ofMaster "master"] = .ok verified := by
  have same : macPurpose sampleShort sampleDoubled "tx" =
      macPurpose sampleDoubled sampleShort "tx" := by decide
  have acquainted : Acquainted [VerifiableKey.ofMaster "master"] [.ofMaster "master"] :=
    ⟨by decide, by decide, by decide⟩
  obtain ⟨content, verified, computed, checked, -⟩ := checkMac_macContent ⟨List.replicate 32 1⟩
    .unpadded (macPurpose sampleShort sampleDoubled "tx") acquainted
  exact ⟨by decide, same, content, verified, computed, same ▸ checked⟩

end Sas

end DeviceVerification
