import DeviceVerification.Base64

/-!
# Groups of three bytes and four symbols

The symbols from `4 * g` on are those of the bytes from `3 * g` on (`drop_encodeChars`), and a group
of symbols is determined by its bytes and determines them (`getElem?_encodeChars_congr`,
`encodeChars_inj`).
-/

namespace DeviceVerification.Base64

/-! ## Symbols -/

/-- The byte of the symbol of a six-bit value. -/
def symbolByte (n : Nat) : UInt8 := UInt8.ofNat (symbol n).toNat

/-- A symbol is read back as its value. -/
theorem sextet?_symbolByte {n : Nat} (h : n < 64) : sextet? (symbolByte n) = some n := by
  have all : ∀ n : Fin 64, sextet? (symbolByte n) = some n.val := by decide +kernel
  exact all ⟨n, h⟩

/-- The six-bit values have different symbols. -/
theorem symbol_inj {m n : Nat} (hm : m < 64) (hn : n < 64) (same : symbol m = symbol n) :
    m = n := by
  have byte : symbolByte m = symbolByte n := by rw [symbolByte, same, symbolByte]
  exact Option.some.inj ((sextet?_symbolByte hm).symm.trans (byte ▸ sextet?_symbolByte hn))

/-! ## Lists of symbols -/

/-- The number of symbols that bytes take. -/
theorem length_encodeChars (bs : Bytes) :
    (encodeChars bs).length = 4 * (bs.length / 3) +
      (if bs.length % 3 = 0 then 0 else bs.length % 3 + 1) := by
  induction bs using encodeChars.induct with
  | case1 a b c rest ih =>
    simp only [encodeChars, List.length_cons, ih]
    have thirds : (rest.length + 1 + 1 + 1) / 3 = rest.length / 3 + 1 := by omega
    have left : (rest.length + 1 + 1 + 1) % 3 = rest.length % 3 := by omega
    rw [thirds, left]
    omega
  | case2 | case3 | case4 => simp [encodeChars]

/-- Leaving out groups of bytes leaves out their symbols. -/
theorem drop_encodeChars (g : Nat) (bs : Bytes) :
    (encodeChars bs).drop (4 * g) = encodeChars (bs.drop (3 * g)) := by
  induction g generalizing bs with
  | zero => rfl
  | succ g ih =>
    match bs with
    | a :: b :: c :: rest =>
      rw [Nat.mul_succ, Nat.mul_succ]
      simpa [encodeChars] using ih rest
    | [a, b] | [a] =>
      rw [List.drop_eq_nil_of_le (by simp [encodeChars]; omega),
        List.drop_eq_nil_of_le (by simp [Nat.mul_succ]), encodeChars]
    | [] => simp [encodeChars]

/-- The first four symbols are those of the first three bytes. -/
theorem take_encodeChars (bs : Bytes) :
    (encodeChars bs).take 4 = encodeChars (bs.take 3) := by
  match bs with
  | a :: b :: c :: rest => simp [encodeChars]
  | [a, b] | [a] | [] => rfl

/-- A symbol depends on the bytes of its group only. -/
theorem getElem?_encodeChars_congr {bs bs' : Bytes} {i : Nat}
    (same : ∀ j, j < 3 * (i / 4) + 3 → bs[j]? = bs'[j]?) :
    (encodeChars bs)[i]? = (encodeChars bs')[i]? := by
  have group (bs : Bytes) : (encodeChars bs)[i]? =
      (encodeChars ((bs.drop (3 * (i / 4))).take 3))[i % 4]? := by
    rw [← take_encodeChars, ← drop_encodeChars, List.getElem?_take,
      if_pos (Nat.mod_lt i (by decide)), List.getElem?_drop, Nat.div_add_mod]
  rw [group bs, group bs']
  have same : (bs.drop (3 * (i / 4))).take 3 = (bs'.drop (3 * (i / 4))).take 3 := by
    refine List.ext_getElem? fun j => ?_
    simp only [List.getElem?_take, List.getElem?_drop]
    split
    · exact same _ (by omega)
    · rfl
  rw [same]

/-- A group of two is a full group with a zero, short of the last symbol. -/
theorem encodeChars_two (a b : UInt8) :
    encodeChars [a, b, 0] = encodeChars [a, b] ++ [symbol 0] := by
  have shift : a.toNat * 65536 + b.toNat * 256 + (0 : UInt8).toNat =
      64 * (a.toNat * 1024 + b.toNat * 4) := by simp; omega
  simp only [encodeChars, shift, List.cons_append, List.nil_append, List.cons.injEq, and_true]
  generalize a.toNat * 1024 + b.toNat * 4 = n
  refine ⟨?_, ?_, ?_, ?_⟩ <;> congr 1 <;> omega

/-- A group of one is a full group with two zeros, short of the last two symbols. -/
theorem encodeChars_one (a : UInt8) :
    encodeChars [a, 0, 0] = encodeChars [a] ++ [symbol 0, symbol 0] := by
  have shift : a.toNat * 65536 + (0 : UInt8).toNat * 256 + (0 : UInt8).toNat =
      4096 * (a.toNat * 16) := by simp; omega
  simp only [encodeChars, shift, List.cons_append, List.nil_append, List.cons.injEq, and_true]
  generalize a.toNat * 16 = n
  refine ⟨?_, ?_, ?_, ?_⟩ <;> congr 1 <;> omega

/-- A full group is determined by its symbols. -/
theorem encodeChars_group_inj {a b c a' b' c' : UInt8}
    (same : encodeChars [a, b, c] = encodeChars [a', b', c']) : a = a' ∧ b = b' ∧ c = c' := by
  simp only [encodeChars, List.cons.injEq, and_true] at same
  obtain ⟨s₀, s₁, s₂, s₃⟩ := same
  have := a.toNat_lt
  have := b.toNat_lt
  have := c.toNat_lt
  have := a'.toNat_lt
  have := b'.toNat_lt
  have := c'.toNat_lt
  have e₀ := symbol_inj (by omega) (by omega) s₀
  have e₁ := symbol_inj (by omega) (by omega) s₁
  have e₂ := symbol_inj (by omega) (by omega) s₂
  have e₃ := symbol_inj (by omega) (by omega) s₃
  exact ⟨UInt8.toNat_inj.1 (by omega), UInt8.toNat_inj.1 (by omega), UInt8.toNat_inj.1 (by omega)⟩

/-- Different bytes have different symbols. -/
theorem encodeChars_inj {bs bs' : Bytes} (same : encodeChars bs = encodeChars bs') : bs = bs' := by
  induction bs using encodeChars.induct generalizing bs' with
  | case1 a b c rest ih =>
    match bs' with
    | a' :: b' :: c' :: rest' =>
      have group : encodeChars [a, b, c] = encodeChars [a', b', c'] := by
        have first := congrArg (·.take 4) same
        simpa only [take_encodeChars, List.take_succ_cons, List.take_zero] using first
      obtain ⟨rfl, rfl, rfl⟩ := encodeChars_group_inj group
      rw [ih (by simpa [encodeChars] using same)]
    | [a', b'] | [a'] | [] => simp [encodeChars] at same
  | case2 a b =>
    match bs' with
    | a' :: b' :: c' :: rest' => simp [encodeChars] at same
    | [a', b'] =>
      have group := congrArg (· ++ [symbol 0]) same
      simp only [← encodeChars_two] at group
      obtain ⟨rfl, rfl, -⟩ := encodeChars_group_inj group
      rfl
    | [a'] | [] => simp [encodeChars] at same
  | case3 a =>
    match bs' with
    | a' :: b' :: c' :: rest' | [a', b'] => simp [encodeChars] at same
    | [a'] =>
      have group := congrArg (· ++ [symbol 0, symbol 0]) same
      simp only [← encodeChars_one] at group
      obtain ⟨rfl, -, -⟩ := encodeChars_group_inj group
      rfl
    | [] => simp [encodeChars] at same
  | case4 =>
    match bs' with
    | a' :: b' :: c' :: rest' | [a', b'] | [a'] => simp [encodeChars] at same
    | [] => rfl

/-! ## Bytes of symbols -/

/-- The bytes of the symbols of some bytes. -/
def written (bs : Bytes) : Bytes := (encodeChars bs).map fun c => UInt8.ofNat c.toNat

/-- The symbols of a group come before those of the bytes behind it. -/
theorem written_group (a b c : UInt8) (rest : Bytes) :
    written (a :: b :: c :: rest) = written [a, b, c] ++ written rest := rfl

end DeviceVerification.Base64
