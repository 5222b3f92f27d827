/-!
# Decimal digits

The decimal form of a natural number and its value. `value_digits` says that the form reads back,
so distinct numbers have distinct forms (`text_inj`).
-/

namespace DeviceVerification.Decimal

/-- The character of a digit. -/
def digit (d : Nat) : Char := Char.ofNat (48 + d % 10)

/-- The value of a digit character. -/
def digitValue? (c : Char) : Option Nat :=
  if '0' ≤ c ∧ c ≤ '9' then some (c.toNat - 48) else none

/-- The decimal form of a number, without leading zeros. -/
def digits (n : Nat) : List Char :=
  if n < 10 then [digit n] else digits (n / 10) ++ [digit (n % 10)]

/-- The number written by the given digit values. -/
def ofDigitValues (ds : List Nat) : Nat := ds.foldl (fun n d => n * 10 + d) 0

/-- The text of a number. -/
def text (n : Nat) : String := String.ofList (digits n)

/-- A digit character has its value. -/
theorem digitValue?_digit {d : Nat} (h : d < 10) : digitValue? (digit d) = some d := by
  have : ∀ d : Fin 10, digitValue? (digit d) = some d.val := by decide
  exact this ⟨d, h⟩

/-- The digits of a number are digit characters whose values write the number. -/
theorem value_digits (n : Nat) :
    ∃ ds, (digits n).mapM digitValue? = some ds ∧ ofDigitValues ds = n := by
  induction n using Nat.strongRecOn with
  | ind n ih =>
    rw [digits]
    split
    · rename_i h
      exact ⟨[n], by simp [digitValue?_digit h], by simp [ofDigitValues]⟩
    · rename_i h
      obtain ⟨ds, hm, hv⟩ := ih (n / 10) (by omega)
      refine ⟨ds ++ [n % 10], ?_, ?_⟩
      · simp [List.mapM_append, hm, digitValue?_digit (Nat.mod_lt n (by decide : 0 < 10))]
      · have : ofDigitValues (ds ++ [n % 10]) = ofDigitValues ds * 10 + n % 10 := by
          simp [ofDigitValues]
        rw [this, hv]
        omega

/-- Distinct numbers have distinct forms. -/
theorem text_inj {n m : Nat} : text n = text m ↔ n = m := by
  refine ⟨fun eq => ?_, fun eq => eq ▸ rfl⟩
  obtain ⟨ds, read, value⟩ := value_digits n
  obtain ⟨ds', read', value'⟩ := value_digits m
  rw [String.ofList_injective eq, read', Option.some.injEq] at read
  rw [← value, ← value', read]

/-- The form of a number is made of digits. -/
theorem mem_digits {n : Nat} {c : Char} (mem : c ∈ digits n) : ∃ d < 10, c = digit d := by
  induction n using Nat.strongRecOn with
  | ind n ih =>
    rw [digits] at mem
    split at mem
    · rename_i small
      exact ⟨n, small, List.mem_singleton.1 mem⟩
    · rcases List.mem_append.1 mem with front | last
      · exact ih (n / 10) (by omega) front
      · exact ⟨n % 10, Nat.mod_lt n (by decide), List.mem_singleton.1 last⟩

end DeviceVerification.Decimal
