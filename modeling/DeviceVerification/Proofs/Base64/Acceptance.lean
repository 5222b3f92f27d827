import DeviceVerification.Proofs.Base64.Alphabet
import DeviceVerification.Proofs.Base64.Groups

/-!
# The texts that are Base64

Reading undoes writing and reads nothing else: a text is read as some bytes if and only if it is
the one that is written for them, with padding behind it up to the end of its last group or with
less of it (`decode_is_exact`). The groups before the last one consist of symbols only. The last one
is read in two steps, first the values of the symbols before the padding (`of_lastValues`) and then
the bytes that these make up, where the bits that no byte takes have to be zeros (`Spells`).
-/

namespace DeviceVerification.Base64

variable {offset place p n : Nat} {first : Option Nat} {vs : List Nat} {b : UInt8}
  {bs group text : Bytes}

/-! ## Symbols and padding -/

/-- A byte has a value if it is the symbol of this value. -/
theorem sextet?_eq_some_iff : sextet? b = some n ↔ n < 64 ∧ b = symbolByte n := by
  constructor
  · intro found
    obtain ⟨inside, same, -⟩ := List.findIdx?_eq_some_iff_getElem.1 found
    have same : (alphabet[n]).toNat = b.toNat := by simpa using same
    have symbol : symbol n = alphabet[n] := by
      rw [symbol, List.getD_eq_getElem?_getD, List.getElem?_eq_getElem inside, Option.getD_some]
    refine ⟨inside, ?_⟩
    rw [symbolByte, symbol, same, UInt8.ofNat_toNat]
  · rintro ⟨small, rfl⟩
    exact sextet?_symbolByte small

theorem sextet?_padding : sextet? padding = none := by decide +kernel

theorem symbolByte_ne_padding (small : n < 64) : symbolByte n ≠ padding := by
  intro same
  have value := sextet?_symbolByte small
  rw [same, sextet?_padding] at value
  cases value

/-! ## The values of the last group -/

/-- Padding is skipped wherever it is allowed. -/
theorem lastValues_padding (room : p = 0 ∨ 2 ≤ place) :
    lastValues offset place first (List.replicate p padding) = .ok [] := by
  induction p generalizing place first with
  | zero => rfl
  | succ p ih =>
    have late : ¬place < 2 := by omega
    unfold lastValues
    rw [List.replicate_succ]
    simp only [if_pos, if_neg late]
    exact ih (.inr (by omega))

/-- Symbols and the padding behind them are read as the values of the symbols. -/
theorem lastValues_symbols (small : ∀ v ∈ vs, v < 64) (room : p = 0 ∨ 2 ≤ place + vs.length) :
    lastValues offset place none (vs.map symbolByte ++ List.replicate p padding) = .ok vs := by
  induction vs generalizing place with
  | nil => exact lastValues_padding room
  | cons v rest ih =>
    have fits := small v List.mem_cons_self
    have tail : lastValues offset (place + 1) none
        (rest.map symbolByte ++ List.replicate p padding) = .ok rest :=
      ih (fun w mem => small w (List.mem_cons_of_mem v mem)) (by simp at room; omega)
    unfold lastValues
    simp [symbolByte_ne_padding fits, sextet?_symbolByte fits, tail, Except.map]

/-- Whatever is read as values consists of their symbols and of padding; once padding was seen,
there are no symbols any more. -/
theorem of_lastValues (read : lastValues offset place first group = .ok vs) :
    ∃ p, group = vs.map symbolByte ++ List.replicate p padding ∧ (∀ v ∈ vs, v < 64) ∧
      (p = 0 ∨ 2 ≤ place + vs.length) ∧ (first.isSome → vs = []) := by
  induction group generalizing place first vs with
  | nil =>
    obtain rfl : [] = vs := Except.ok.inj read
    exact ⟨0, rfl, nofun, .inl rfl, fun _ => rfl⟩
  | cons b rest ih =>
    unfold lastValues at read
    split at read
    · rename_i pad
      subst pad
      split at read
      · cases read
      · rename_i late
        obtain ⟨p, eq, -, -, ended⟩ := ih read
        obtain rfl : vs = [] := ended (by cases first <;> rfl)
        exact ⟨p + 1, by simp [eq, List.replicate_succ], nofun, .inr (by simp; omega), fun _ => rfl⟩
    · split at read
      · cases read
      · cases read
      · rename_i v value
        cases tail : lastValues offset (place + 1) none rest with
        | error e =>
          rw [tail] at read
          cases read
        | ok values =>
          rw [tail] at read
          obtain rfl : v :: values = vs := Except.ok.inj read
          obtain ⟨p, eq, small, room, -⟩ := ih tail
          obtain ⟨fits, rfl⟩ := sextet?_eq_some_iff.1 value
          refine ⟨p, by simp [eq], ?_, ?_, nofun⟩
          · exact List.forall_mem_cons.2 ⟨fits, small⟩
          · rcases room with none | room
            · exact .inl none
            · exact .inr (by simp; omega)

/-! ## The bytes of the last group -/

/-- The bytes that the values of a full group make up. -/
def joined (v₀ v₁ v₂ v₃ : Nat) : Bytes :=
  [UInt8.ofNat (v₀ * 4 + v₁ / 16), UInt8.ofNat (v₁ % 16 * 16 + v₂ / 4),
    UInt8.ofNat (v₂ % 4 * 64 + v₃)]

/-- Values of a last group and the bytes that they make up. The bits that no byte takes are
zeros. -/
inductive Spells : List Nat → Bytes → Prop where
  | nothing : Spells [] []
  | one {v₀ v₁ : Nat} (h₀ : v₀ < 64) (h₁ : v₁ < 64) (zeros : v₁ % 16 = 0) :
      Spells [v₀, v₁] [UInt8.ofNat (v₀ * 4 + v₁ / 16)]
  | two {v₀ v₁ v₂ : Nat} (h₀ : v₀ < 64) (h₁ : v₁ < 64) (h₂ : v₂ < 64) (zeros : v₂ % 4 = 0) :
      Spells [v₀, v₁, v₂]
        [UInt8.ofNat (v₀ * 4 + v₁ / 16), UInt8.ofNat (v₁ % 16 * 16 + v₂ / 4)]
  | three {v₀ v₁ v₂ v₃ : Nat} (h₀ : v₀ < 64) (h₁ : v₁ < 64) (h₂ : v₂ < 64) (h₃ : v₃ < 64) :
      Spells [v₀, v₁, v₂, v₃] (joined v₀ v₁ v₂ v₃)

/-- Bytes are written as the symbols of their values. -/
theorem Spells.written_eq (h : Spells vs bs) : written bs = vs.map symbolByte := by
  cases h with
  | nothing => rfl
  | @one v₀ v₁ h₀ h₁ zeros =>
    have number : (v₀ * 4 + v₁ / 16) % 256 * 16 = v₀ * 64 + v₁ := by omega
    simp only [written, encodeChars, UInt8.toNat_ofNat', number]
    have first : (v₀ * 64 + v₁) / 64 = v₀ := by omega
    have second : (v₀ * 64 + v₁) % 64 = v₁ := by omega
    rw [first, second]
    rfl
  | @two v₀ v₁ v₂ h₀ h₁ h₂ zeros =>
    have number : (v₀ * 4 + v₁ / 16) % 256 * 1024 + (v₁ % 16 * 16 + v₂ / 4) % 256 * 4 =
        v₀ * 4096 + v₁ * 64 + v₂ := by omega
    simp only [written, encodeChars, UInt8.toNat_ofNat', number]
    have first : (v₀ * 4096 + v₁ * 64 + v₂) / 4096 = v₀ := by omega
    have second : (v₀ * 4096 + v₁ * 64 + v₂) / 64 % 64 = v₁ := by omega
    have third : (v₀ * 4096 + v₁ * 64 + v₂) % 64 = v₂ := by omega
    rw [first, second, third]
    rfl
  | @three v₀ v₁ v₂ v₃ h₀ h₁ h₂ h₃ =>
    have number : (v₀ * 4 + v₁ / 16) % 256 * 65536 + (v₁ % 16 * 16 + v₂ / 4) % 256 * 256 +
        (v₂ % 4 * 64 + v₃) % 256 = v₀ * 262144 + v₁ * 4096 + v₂ * 64 + v₃ := by omega
    simp only [written, joined, encodeChars, UInt8.toNat_ofNat', number]
    have first : (v₀ * 262144 + v₁ * 4096 + v₂ * 64 + v₃) / 262144 = v₀ := by omega
    have second : (v₀ * 262144 + v₁ * 4096 + v₂ * 64 + v₃) / 4096 % 64 = v₁ := by omega
    have third : (v₀ * 262144 + v₁ * 4096 + v₂ * 64 + v₃) / 64 % 64 = v₂ := by omega
    have fourth : (v₀ * 262144 + v₁ * 4096 + v₂ * 64 + v₃) % 64 = v₃ := by omega
    rw [first, second, third, fourth]
    rfl

/-- A number that is the one of a byte makes up this byte. -/
theorem ofNat_eq {x : UInt8} (h : n = x.toNat) : UInt8.ofNat n = x := by
  rw [h, UInt8.ofNat_toNat]

/-- Every three bytes have values. -/
theorem exists_joined (x y z : UInt8) : ∃ v₀ v₁ v₂ v₃,
    (v₀ < 64 ∧ v₁ < 64 ∧ v₂ < 64 ∧ v₃ < 64) ∧ joined v₀ v₁ v₂ v₃ = [x, y, z] := by
  have := x.toNat_lt
  have := y.toNat_lt
  have := z.toNat_lt
  refine ⟨x.toNat / 4, x.toNat % 4 * 16 + y.toNat / 16, y.toNat % 16 * 4 + z.toNat / 64,
    z.toNat % 64, by omega, ?_⟩
  rw [joined, ofNat_eq (x := x) (by omega), ofNat_eq (x := y) (by omega),
    ofNat_eq (x := z) (by omega)]

/-- The bytes of a last group have values. -/
theorem exists_spells (short : bs.length ≤ 3) : ∃ vs, Spells vs bs := by
  match bs, short with
  | [], _ => exact ⟨[], .nothing⟩
  | [x], _ =>
    have := x.toNat_lt
    have spells := @Spells.one (x.toNat / 4) (x.toNat % 4 * 16) (by omega) (by omega) (by omega)
    rw [ofNat_eq (x := x) (by omega)] at spells
    exact ⟨_, spells⟩
  | [x, y], _ =>
    have := x.toNat_lt
    have := y.toNat_lt
    have spells := @Spells.two (x.toNat / 4) (x.toNat % 4 * 16 + y.toNat / 16) (y.toNat % 16 * 4)
      (by omega) (by omega) (by omega) (by omega)
    rw [ofNat_eq (x := x) (by omega), ofNat_eq (x := y) (by omega)] at spells
    exact ⟨_, spells⟩
  | [x, y, z], _ =>
    obtain ⟨v₀, v₁, v₂, v₃, ⟨h₀, h₁, h₂, h₃⟩, same⟩ := exists_joined x y z
    have spells := Spells.three h₀ h₁ h₂ h₃
    rw [same] at spells
    exact ⟨_, spells⟩

/-- The number of characters that would complete the last group of a text. -/
def missing (length : Nat) : Nat := (4 - length % 4) % 4

namespace Spells

theorem small (h : Spells vs bs) : ∀ v ∈ vs, v < 64 := by
  cases h <;> simp [*]

theorem length_le (h : Spells vs bs) : vs.length ≤ 4 ∧ bs.length ≤ 3 := by
  cases h <;> simp [joined]

/-- Padding that fits behind the symbols of a last group completes it, or is less. -/
theorem room_iff (h : Spells vs bs) :
    vs.length + p ≤ 4 ∧ (p = 0 ∨ 2 ≤ vs.length) ↔ p ≤ missing vs.length := by
  cases h <;> simp [missing] <;> omega

end Spells

/-! ## The last group -/

/-- The values of a last group are read as the bytes that they make up. -/
theorem decodeLast_of_values (values : lastValues offset 0 none group = .ok vs)
    (small : ∀ v ∈ vs, v < 64) (few : vs.length ≤ 4) (nothing : vs = [] → group = []) :
    decodeLast offset group = .ok bs ↔ Spells vs bs := by
  unfold decodeLast
  rw [values]
  simp only [bind, Except.bind]
  constructor
  · intro read
    split at read
    · split at read
      · cases read
        exact .nothing
      · cases read
    · cases read
    · rename_i v₀ v₁
      obtain ⟨h₀, h₁⟩ : v₀ < 64 ∧ v₁ < 64 := by simpa using small
      split at read
      · rename_i zeros
        cases read
        exact .one h₀ h₁ zeros
      · cases read
    · rename_i v₀ v₁ v₂
      obtain ⟨h₀, h₁, h₂⟩ : v₀ < 64 ∧ v₁ < 64 ∧ v₂ < 64 := by simpa using small
      split at read
      · rename_i zeros
        cases read
        exact .two h₀ h₁ h₂ zeros
      · cases read
    · rename_i v₀ v₁ v₂ v₃ rest
      simp only [List.length_cons] at few
      obtain rfl : rest = [] := List.eq_nil_of_length_eq_zero (by omega)
      obtain ⟨h₀, h₁, h₂, h₃⟩ : v₀ < 64 ∧ v₁ < 64 ∧ v₂ < 64 ∧ v₃ < 64 := by simpa using small
      cases read
      exact .three h₀ h₁ h₂ h₃
  · intro spells
    cases spells with
    | nothing =>
      rw [nothing rfl]
      rfl
    | one h₀ h₁ zeros => exact if_pos zeros
    | two h₀ h₁ h₂ zeros => exact if_pos zeros
    | three => rfl

/-- A last group is read as the bytes that the values before its padding make up. -/
theorem decodeLast_eq_ok_iff (short : group.length ≤ 4) :
    decodeLast offset group = .ok bs ↔ ∃ vs p, Spells vs bs ∧
      group = vs.map symbolByte ++ List.replicate p padding ∧ (p = 0 ∨ 2 ≤ vs.length) := by
  have nothing {vs : List Nat} {p : Nat} (room : p = 0 ∨ 2 ≤ vs.length) (none : vs = []) :
      vs.map symbolByte ++ List.replicate p padding = [] := by
    subst none
    obtain rfl : p = 0 := by simpa using room
    rfl
  constructor
  · intro read
    cases values : lastValues offset 0 none group with
    | error e =>
      rw [decodeLast, values] at read
      cases read
    | ok vs =>
      obtain ⟨p, rfl, small, room, -⟩ := of_lastValues values
      rw [Nat.zero_add] at room
      simp only [List.length_append, List.length_map] at short
      exact ⟨vs, p, (decodeLast_of_values values small (by omega) (nothing room)).1 read, rfl, room⟩
  · rintro ⟨vs, p, spells, rfl, room⟩
    have values : lastValues offset 0 none (vs.map symbolByte ++ List.replicate p padding) =
        .ok vs :=
      lastValues_symbols spells.small (by rwa [Nat.zero_add])
    exact (decodeLast_of_values values spells.small spells.length_le.1 (nothing room)).2 spells

/-- The symbols of some bytes, with padding behind them up to the end of the last group, or less. -/
def IsPadded (text bs : Bytes) : Prop :=
  ∃ p ≤ missing (written bs).length, text = written bs ++ List.replicate p padding

/-- At most four characters are read as the bytes that they are written for, three at most. -/
theorem decodeLast_eq_ok_iff_isPadded (short : group.length ≤ 4) :
    decodeLast offset group = .ok bs ↔ bs.length ≤ 3 ∧ IsPadded group bs := by
  rw [decodeLast_eq_ok_iff short]
  constructor
  · rintro ⟨vs, p, spells, rfl, room⟩
    rw [List.length_append, List.length_map, List.length_replicate] at short
    refine ⟨spells.length_le.2, p, ?_, by rw [spells.written_eq]⟩
    rw [spells.written_eq, List.length_map]
    exact spells.room_iff.1 ⟨short, room⟩
  · rintro ⟨few, p, room, rfl⟩
    obtain ⟨vs, spells⟩ := exists_spells few
    rw [spells.written_eq, List.length_map] at room
    exact ⟨vs, p, spells, by rw [spells.written_eq], (spells.room_iff.2 room).2⟩

/-! ## All groups -/

/-- At most four characters are a last group. -/
theorem decodeFrom_short (short : text.length ≤ 4) :
    decodeFrom offset text = decodeLast offset text := by
  match text, short with
  | [], _ | [_], _ | [_, _], _ | [_, _, _], _ | [_, _, _, _], _ => rw [decodeFrom]; simp

/-- A byte at a place without padding is the symbol of its value. -/
theorem valueAt_eq_ok_iff : valueAt offset b = .ok n ↔ n < 64 ∧ b = symbolByte n := by
  rw [← sextet?_eq_some_iff, valueAt]
  cases sextet? b <;> simp

theorem bind_eq_ok_iff {α β : Type} {x : Except DecodeError α} {f : α → Except DecodeError β}
    {result : β} : x >>= f = .ok result ↔ ∃ a, x = .ok a ∧ f a = .ok result := by
  cases x <;> simp [bind, Except.bind]

/-- A group that has more text behind it is read as three bytes, whose symbols it has. -/
theorem decodeFrom_group_eq_ok_iff {b₀ b₁ b₂ b₃ : UInt8} (more : text ≠ []) :
    decodeFrom offset (b₀ :: b₁ :: b₂ :: b₃ :: text) = .ok bs ↔
      ∃ x y z rest, bs = x :: y :: z :: rest ∧ written [x, y, z] = [b₀, b₁, b₂, b₃] ∧
        decodeFrom (offset + 4) text = .ok rest := by
  obtain ⟨b₄, text, rfl⟩ := List.exists_cons_of_ne_nil more
  rw [decodeFrom]
  simp only [bind_eq_ok_iff, valueAt_eq_ok_iff]
  constructor
  · rintro ⟨v₀, ⟨h₀, rfl⟩, v₁, ⟨h₁, rfl⟩, v₂, ⟨h₂, rfl⟩, v₃, ⟨h₃, rfl⟩, rest, tail, read⟩
    cases read
    exact ⟨_, _, _, rest, rfl, (Spells.three h₀ h₁ h₂ h₃).written_eq, tail⟩
  · rintro ⟨x, y, z, rest, rfl, group, tail⟩
    obtain ⟨v₀, v₁, v₂, v₃, ⟨h₀, h₁, h₂, h₃⟩, same⟩ := exists_joined x y z
    rw [← same, (Spells.three h₀ h₁ h₂ h₃).written_eq] at group
    obtain ⟨rfl, rfl, rfl, rfl⟩ : symbolByte v₀ = b₀ ∧ symbolByte v₁ = b₁ ∧ symbolByte v₂ = b₂ ∧
        symbolByte v₃ = b₃ := by simpa using group
    refine ⟨v₀, ⟨h₀, rfl⟩, v₁, ⟨h₁, rfl⟩, v₂, ⟨h₂, rfl⟩, v₃, ⟨h₃, rfl⟩, rest, tail, ?_⟩
    exact congrArg (fun group => Except.ok (group ++ rest)) same

/-- The padding of a text is the one behind its first group. -/
theorem isPadded_group_iff {b₀ b₁ b₂ b₃ x y z : UInt8} :
    IsPadded (b₀ :: b₁ :: b₂ :: b₃ :: text) (x :: y :: z :: bs) ↔
      written [x, y, z] = [b₀, b₁, b₂, b₃] ∧ IsPadded text bs := by
  have room : missing (written (x :: y :: z :: bs)).length = missing (written bs).length := by
    simp [written, encodeChars, missing]
    omega
  have front : (written [x, y, z]).length = [b₀, b₁, b₂, b₃].length := by
    simp [written, encodeChars]
  unfold IsPadded
  rw [room]
  constructor
  · rintro ⟨p, fits, eq⟩
    rw [written_group, List.append_assoc] at eq
    change [b₀, b₁, b₂, b₃] ++ text = _ at eq
    obtain ⟨group, tail⟩ := List.append_inj eq front.symm
    exact ⟨group.symm, p, fits, tail⟩
  · rintro ⟨group, p, fits, rfl⟩
    refine ⟨p, fits, ?_⟩
    rw [written_group, group, List.append_assoc]
    rfl

/-- A text is one group if its bytes are. -/
theorem IsPadded.length_le (h : IsPadded text bs) : text.length ≤ 4 ↔ bs.length ≤ 3 := by
  obtain ⟨p, fits, rfl⟩ := h
  have size : (written bs).length = _ := (List.length_map _).trans (length_encodeChars bs)
  simp only [List.length_append, List.length_replicate, missing] at *
  split at size <;> omega

/-- **What the bytes of a text are read as.** -/
theorem decodeFrom_eq_ok_iff : decodeFrom offset text = .ok bs ↔ IsPadded text bs := by
  induction offset, text using decodeFrom.induct generalizing bs with
  | case1 offset b₀ b₁ b₂ b₃ b₄ rest ih =>
    rw [decodeFrom_group_eq_ok_iff (List.cons_ne_nil b₄ rest)]
    constructor
    · rintro ⟨x, y, z, tail, rfl, group, read⟩
      exact isPadded_group_iff.2 ⟨group, ih.1 read⟩
    · intro padded
      match bs with
      | x :: y :: z :: tail =>
        obtain ⟨group, further⟩ := isPadded_group_iff.1 padded
        exact ⟨x, y, z, tail, rfl, group, ih.2 further⟩
      | [_, _] | [_] | [] =>
        have few := padded.length_le.2 (by simp)
        simp only [List.length_cons] at few
        omega
  | case2 offset last few =>
    have short : last.length ≤ 4 := by
      match last, few with
      | [], _ | [_], _ | [_, _], _ | [_, _, _], _ | [_, _, _, _], _ => simp
      | b₀ :: b₁ :: b₂ :: b₃ :: b₄ :: rest, few => exact (few b₀ b₁ b₂ b₃ b₄ rest rfl).elim
    rw [decodeFrom_short short, decodeLast_eq_ok_iff_isPadded short]
    exact ⟨fun h => h.2, fun padded => ⟨padded.length_le.1 short, padded⟩⟩

/-! ## Texts -/

/-- Every byte of a text that is written is padding or has a value. -/
theorem IsPadded.known (h : IsPadded text bs) : ∀ b ∈ text, b = padding ∨ (sextet? b).isSome := by
  obtain ⟨p, -, rfl⟩ := h
  intro b mem
  rcases List.mem_append.1 mem with symbol | pad
  · obtain ⟨c, listed, rfl⟩ := List.mem_map.1 symbol
    have valued : (alphabet.all fun c => (sextet? (UInt8.ofNat c.toNat)).isSome) = true := by
      decide +kernel
    exact .inr (List.all_eq_true.1 valued c (mem_alphabet_of_mem_encodeChars bs c listed))
  · exact .inl (List.eq_of_mem_replicate pad)

/-- The last byte is looked at first, but only one that could not be read is reported. -/
theorem decodeBytes_eq_ok_iff : decodeBytes text = .ok bs ↔ IsPadded text bs := by
  unfold decodeBytes
  cases stray : strayLast text with
  | none => exact decodeFrom_eq_ok_iff
  | some e =>
    refine iff_of_false nofun fun padded => ?_
    unfold strayLast at stray
    split at stray
    · rename_i b last
      split at stray
      · rename_i strange
        have known := padded.known b (List.mem_of_getLast? last)
        simp [strange] at known
      · cases stray
    · cases stray

/-- A text is Base64 of some bytes: what is written for them, with padding behind it up to the end
of the last group, or less. -/
def IsBase64 (text : String) (bs : Bytes) : Prop :=
  ∃ p ≤ missing (encode bs).length, text = encode bs ++ String.ofList (List.replicate p '=')

theorem utf8_ofList (cs : List Char) :
    utf8 (String.ofList cs) = cs.flatMap String.utf8EncodeChar := by
  simp [utf8, String.toUTF8, List.utf8Encode]

/-- A text of ASCII characters has one byte for each of them. -/
theorem utf8_ascii {cs : List Char} (ascii : ∀ c ∈ cs, c.toNat < 128) :
    utf8 (String.ofList cs) = cs.map fun c => UInt8.ofNat c.toNat := by
  rw [utf8_ofList]
  induction cs with
  | nil => rfl
  | cons c rest ih =>
    have low : c.val.toNat ≤ 127 := Nat.le_of_lt_succ (ascii c List.mem_cons_self)
    have single : String.utf8EncodeChar c = [UInt8.ofNat c.toNat] := if_pos low
    rw [List.flatMap_cons, single, ih fun c mem => ascii c (List.mem_cons_of_mem _ mem)]
    rfl

theorem utf8_padded (bs : Bytes) (p : Nat) :
    utf8 (encode bs ++ String.ofList (List.replicate p '=')) =
      written bs ++ List.replicate p padding := by
  have ascii : ∀ c ∈ encodeChars bs ++ List.replicate p '=', c.toNat < 128 := by
    intro c mem
    rcases List.mem_append.1 mem with symbol | pad
    · have low : (alphabet.all fun c => c.toNat < 128) = true := by decide +kernel
      simpa using List.all_eq_true.1 low c (mem_alphabet_of_mem_encodeChars bs c symbol)
    · rw [List.eq_of_mem_replicate pad]
      decide
  rw [encode, ← String.ofList_append, utf8_ascii ascii, List.map_append, List.map_replicate]
  rfl

theorem isPadded_utf8_iff (text : String) : IsPadded (utf8 text) bs ↔ IsBase64 text bs := by
  have size : (encode bs).length = (written bs).length := by simp [encode, written]
  unfold IsPadded IsBase64
  rw [size]
  refine exists_congr fun p => and_congr_right fun _ => ?_
  rw [← utf8_padded, utf8_inj]

/-- **What is Base64.** A text is read as some bytes if and only if it is what is written for them,
with as much padding behind it as would complete its last group or with less; and every text that is
not written for any bytes is refused. -/
theorem decode_is_exact (text : String) :
    (∀ bs, decode text = .ok bs ↔ IsBase64 text bs) ∧
      ((∃ e, decode text = .error e) ↔ ¬∃ bs, IsBase64 text bs) := by
  have reads (bs : Bytes) : decode text = .ok bs ↔ IsBase64 text bs := by
    rw [decode, decodeBytes_eq_ok_iff, isPadded_utf8_iff]
  refine ⟨reads, ?_⟩
  simp only [← reads]
  cases decode text <;> simp

/-- Two symbols may have two characters of padding behind them, or one, but not three; and the last
symbol may not have bits that no byte takes. -/
example : decode "YQ==" = .ok [97] ∧ decode "YQ=" = .ok [97] ∧
    decode "YQ===" = .error (.invalidByte 2 61) ∧
    decode "YR" = .error (.invalidLastSymbol 1 82) := by
  refine ⟨?_, ?_, ?_, ?_⟩ <;> cbv

end DeviceVerification.Base64
