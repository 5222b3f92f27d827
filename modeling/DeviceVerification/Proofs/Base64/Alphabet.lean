import DeviceVerification.Base64

/-!
# Texts over the alphabet

What `Base64.encode` writes consists of symbols of the alphabet, whatever the bytes are
(`spelled_encode`).
-/

namespace DeviceVerification.Base64

/-- A text of symbols only. -/
def Spelled (s : String) : Prop := ∀ c ∈ s.toList, c ∈ alphabet

instance (s : String) : Decidable (Spelled s) := inferInstanceAs (Decidable (∀ c ∈ s.toList, _))

/-- There are sixty-four symbols, and everything beyond them is written as the first one. -/
theorem symbol_mem_alphabet (n : Nat) : symbol n ∈ alphabet := by
  unfold symbol
  rw [List.getD_eq_getElem?_getD]
  cases found : alphabet[n]? with
  | some c => exact List.mem_of_getElem? found
  | none => decide

theorem mem_alphabet_of_mem_encodeChars (bs : Bytes) : ∀ c ∈ encodeChars bs, c ∈ alphabet := by
  induction bs using encodeChars.induct with
  | case1 a b c rest ih =>
    intro x mem
    simp only [encodeChars, List.mem_cons] at mem
    rcases mem with rfl | rfl | rfl | rfl | mem
    · exact symbol_mem_alphabet _
    · exact symbol_mem_alphabet _
    · exact symbol_mem_alphabet _
    · exact symbol_mem_alphabet _
    · exact ih x mem
  | case2 a b =>
    intro x mem
    simp only [encodeChars, List.mem_cons, List.not_mem_nil, or_false] at mem
    rcases mem with rfl | rfl | rfl <;> exact symbol_mem_alphabet _
  | case3 a =>
    intro x mem
    simp only [encodeChars, List.mem_cons, List.not_mem_nil, or_false] at mem
    rcases mem with rfl | rfl <;> exact symbol_mem_alphabet _
  | case4 =>
    intro x mem
    cases mem

theorem spelled_encode (bs : Bytes) : Spelled (encode bs) := by
  intro c mem
  rw [encode, String.toList_ofList] at mem
  exact mem_alphabet_of_mem_encodeChars bs c mem

end DeviceVerification.Base64
