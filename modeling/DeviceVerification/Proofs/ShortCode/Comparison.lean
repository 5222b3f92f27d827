import Mathlib.Data.List.Nodup
import DeviceVerification.Proofs.ShortCode.Bits

/-!
# What people compare

Two people compare texts, not bytes. `comparison_is_faithful` says that nothing is lost on the way:
the texts of the numbers are equal just when the codes agree in their first 39 bits, the rows of
pictures just when they agree in their first 42. No piece of either text contains what separates the
pieces, so a text determines its pieces (`eq_of_intercalate_eq`), a number is determined by its
digits, and no two pictures of the table look alike (`Emoji.text_ofIndex_inj`).
-/

namespace DeviceVerification

/-! ## Texts that are joined -/

section Joined

variable {mark : Char} {before after : List Char}

/-- The first occurrence of a mark is in one place. -/
theorem append_mark_inj {l l' r s : List Char} (free : mark ∉ l) (free' : mark ∉ l')
    (eq : l ++ mark :: r = l' ++ mark :: s) : l = l' ∧ r = s := by
  induction l generalizing l' with
  | nil =>
    cases l' with
    | nil => exact ⟨rfl, (List.cons.inj eq).2⟩
    | cons y l' => exact absurd ((List.cons.inj eq).1 ▸ List.mem_cons_self) free'
  | cons x l ih =>
    cases l' with
    | nil => exact absurd ((List.cons.inj eq).1 ▸ List.mem_cons_self) free
    | cons y l' =>
      obtain ⟨rfl, tail⟩ := List.cons.inj eq
      obtain ⟨rfl, rest⟩ := ih (fun mem => free (List.mem_cons_of_mem _ mem))
        (fun mem => free' (List.mem_cons_of_mem _ mem)) tail
      exact ⟨rfl, rest⟩

/-- A text determines its pieces if none of them contains a mark of what separates them. -/
theorem eq_of_intercalate_eq {ts us : List (List Char)} (first : mark ∉ before)
    (length : ts.length = us.length) (free : ∀ t ∈ ts, mark ∉ t) (free' : ∀ u ∈ us, mark ∉ u)
    (eq : (before ++ mark :: after).intercalate ts = (before ++ mark :: after).intercalate us) :
    ts = us := by
  induction ts generalizing us with
  | nil => exact (List.length_eq_zero_iff.1 length.symm).symm
  | cons t ts ih =>
    obtain ⟨u, us, rfl⟩ := List.exists_cons_of_length_eq_add_one length.symm
    obtain ⟨ht, free⟩ := List.forall_mem_cons.1 free
    obtain ⟨hu, free'⟩ := List.forall_mem_cons.1 free'
    have rest : ts.length = us.length := Nat.succ_inj.1 length
    cases ts with
    | nil =>
      obtain rfl := List.length_eq_zero_iff.1 rest.symm
      simpa using eq
    | cons t' ts =>
      obtain ⟨u', us, rfl⟩ := List.exists_cons_of_length_eq_add_one rest.symm
      -- Up to the first mark of the whole text stands the first piece, and what precedes the mark.
      have eq : t ++ before ++ mark :: (after ++ (before ++ mark :: after).intercalate (t' :: ts)) =
          u ++ before ++ mark :: (after ++ (before ++ mark :: after).intercalate (u' :: us)) := by
        simpa [List.intercalate_cons_cons] using eq
      obtain ⟨same, eq⟩ := append_mark_inj (by simp [ht, first]) (by simp [hu, first]) eq
      rw [List.append_cancel_right same, ih rest free free' (List.append_cancel_left eq)]

/-- The same for texts that are not opened. -/
theorem eq_of_text_intercalate_eq {sep : String} {ts us : List String}
    (parts : sep.toList = before ++ mark :: after) (first : mark ∉ before)
    (length : ts.length = us.length) (free : ∀ t ∈ ts, mark ∉ t.toList)
    (free' : ∀ u ∈ us, mark ∉ u.toList) (eq : sep.intercalate ts = sep.intercalate us) :
    ts = us := by
  have chars := congrArg String.toList eq
  rw [String.toList_intercalate, String.toList_intercalate, parts] at chars
  have same := eq_of_intercalate_eq first (by simpa using length) (by simpa using free)
    (by simpa using free') chars
  exact List.map_injective_iff.2 (fun _ _ => String.toList_inj.1) same

end Joined

/-! ## Numbers -/

theorem Decimal.space_not_mem_text (n : Nat) : ' ' ∉ (Decimal.text n).toList := by
  intro mem
  obtain ⟨d, small, eq⟩ := Decimal.mem_digits (String.toList_ofList ▸ mem)
  have value := Decimal.digitValue?_digit small
  rw [← eq] at value
  cases value

theorem Decimals.text_eq (d : Decimals) :
    d.text = String.intercalate " " (d.values.map Decimal.text) := by
  simp [text, values, String.append_assoc]

theorem Decimals.text_inj {d e : Decimals} : d.text = e.text ↔ d.values = e.values := by
  refine ⟨fun eq => ?_, fun eq => by rw [text_eq, text_eq, eq]⟩
  have parts : " ".toList = [] ++ ' ' :: [] := rfl
  have length : (d.values.map Decimal.text).length = (e.values.map Decimal.text).length := rfl
  have free : ∀ l : List Nat, ∀ t ∈ l.map Decimal.text, ' ' ∉ t.toList := by
    simpa using fun _ n _ => Decimal.space_not_mem_text n
  rw [text_eq, text_eq] at eq
  have same := eq_of_text_intercalate_eq parts List.not_mem_nil length (free _) (free _) eq
  exact List.map_injective_iff.2 (fun _ _ => Decimal.text_inj.1) same

/-! ## Pictures -/

namespace Emoji

/-- A picture with its name, as people see it. -/
def text (e : Emoji) : String := e.glyph ++ " " ++ e.name

theorem length_table : table.length = 2 ^ 6 := rfl

theorem table_nodup : (table.map text).Nodup := by decide +kernel

theorem bar_not_mem_text : ∀ e ∈ table, '|' ∉ e.text.toList := by decide +kernel

theorem ofIndex_eq {i : Nat} (lt : i < table.length) : ofIndex i = table[i] := by
  rw [ofIndex, List.getD_eq_getElem?_getD, List.getElem?_eq_getElem lt, Option.getD_some]

/-- What people see of a picture tells its value: no two pictures of the table look alike. -/
theorem idxOf_text_ofIndex {i : Nat} (lt : i < table.length) :
    (table.map text).idxOf (ofIndex i).text = i := by
  have lt' : i < (table.map text).length := by rwa [List.length_map]
  rw [ofIndex_eq lt, ← List.getElem_map (f := text) (h := lt')]
  exact table_nodup.idxOf_getElem i lt'

/-- Rows of equally many pictures of the table are told apart by what people see. -/
theorem row_inj {l l' : List Nat} (length : l.length = l'.length)
    (small : ∀ i ∈ l, i < table.length) (small' : ∀ i ∈ l', i < table.length) :
    row (l.map ofIndex) = row (l'.map ofIndex) ↔ l = l' := by
  refine ⟨fun eq => ?_, fun eq => eq ▸ rfl⟩
  have free : ∀ {k : List Nat}, (∀ i ∈ k, i < table.length) →
      ∀ t ∈ (k.map ofIndex).map text, '|' ∉ t.toList := by
    simp only [List.map_map, List.forall_mem_map]
    intro k small i mem
    exact bar_not_mem_text _ (ofIndex_eq (small i mem) ▸ List.getElem_mem _)
  have back : ∀ {k : List Nat}, (∀ i ∈ k, i < table.length) →
      ((k.map ofIndex).map text).map (table.map text).idxOf = k := by
    intro k small
    rw [List.map_map, List.map_map]
    refine (List.map_congr_left fun i mem => ?_).trans (List.map_id k)
    exact idxOf_text_ofIndex (small i mem)
  have parts : " | ".toList = [' '] ++ '|' :: [' '] := rfl
  have same := eq_of_text_intercalate_eq parts (by decide) (by simpa using length) (free small)
    (free small') eq
  rw [← back small, same, back small']

end Emoji

namespace ShortCode

variable {c d : ShortCode}

theorem text_decimals_inj :
    c.decimals.text = d.decimals.text ↔ ∀ i < 39, c.bit i = d.bit i := by
  rw [Decimals.text_inj, values_decimals, values_decimals,
    List.map_inj_right fun _ _ => Nat.add_right_cancel,
    slices_inj (c.leading_lt (by decide)) (d.leading_lt (by decide)), leading_eq_iff (by decide)]

theorem length_emojiIndices (c : ShortCode) : c.emojiIndices.length = 7 := by simp [emojiIndices]

theorem lt_of_mem_emojiIndices {i : Nat} (mem : i ∈ c.emojiIndices) : i < Emoji.table.length := by
  rw [emojiIndices_eq] at mem
  exact Emoji.length_table ▸ lt_of_mem_slices mem

theorem row_emoji_inj : Emoji.row c.emoji = Emoji.row d.emoji ↔ ∀ i < 42, c.bit i = d.bit i := by
  have length : c.emojiIndices.length = d.emojiIndices.length := by
    rw [length_emojiIndices, length_emojiIndices]
  rw [emoji, emoji, Emoji.row_inj length (fun _ => lt_of_mem_emojiIndices)
    (fun _ => lt_of_mem_emojiIndices), emojiIndices_eq, emojiIndices_eq,
    slices_inj (c.leading_lt (by decide)) (d.leading_lt (by decide)), leading_eq_iff (by decide)]

theorem values_decimals_mem (c : ShortCode) : ∀ n ∈ c.decimals.values, 1000 ≤ n ∧ n ≤ 9191 := by
  rw [values_decimals, List.forall_mem_map]
  intro s mem
  have lt := lt_of_mem_slices mem
  omega

/-- **What people compare is faithful.** The texts of the numbers are equal just when the codes
agree in their first 39 bits, the rows of pictures just when they agree in their first 42. Every
number has four digits, from 1000 to 9191, and is computed without losing a bit or a carry. -/
theorem comparison_is_faithful (c d : ShortCode) :
    (c.decimals.text = d.decimals.text ↔ ∀ i < 39, c.bit i = d.bit i) ∧
      (Emoji.row c.emoji = Emoji.row d.emoji ↔ ∀ i < 42, c.bit i = d.bit i) ∧
      (∀ n ∈ c.decimals.values, 1000 ≤ n ∧ n ≤ 9191) ∧ c.decimals? = some c.decimals :=
  ⟨text_decimals_inj, row_emoji_inj, c.values_decimals_mem, c.decimals?_eq⟩

/-- A code with a zero after its first 39 bits. -/
def sampleCode : ShortCode := ⟨1, 2, 3, 4, 0b10101010, 0⟩

/-- The code with the same 39 bits and ones after them. -/
def sampleNeighbour : ShortCode := ⟨1, 2, 3, 4, 0b10101011, 0xff⟩

/-- People who compare numbers take the two for one code, people who compare pictures do not. -/
theorem comparison_is_faithful_sample :
    sampleCode.decimals.text = sampleNeighbour.decimals.text ∧
      Emoji.row sampleCode.emoji ≠ Emoji.row sampleNeighbour.emoji := by
  obtain ⟨numbers, pictures, -, -⟩ := comparison_is_faithful sampleCode sampleNeighbour
  have agree : ∀ i < 39, sampleCode.bit i = sampleNeighbour.bit i := by decide
  have differ : sampleCode.bit 39 ≠ sampleNeighbour.bit 39 := by decide
  exact ⟨numbers.2 agree, fun same => differ (pictures.1 same 39 (by decide))⟩

end ShortCode

end DeviceVerification
