import Mathlib.Data.Set.Card
import Mathlib.Data.Fintype.Pi
import DeviceVerification.Crypto.SharedSecret
import DeviceVerification.Proofs.Base64.Alphabet
import DeviceVerification.Proofs.Base64.Groups

/-!
# What survives being overwritten

The encoder that works in place reads three bytes where it writes four symbols, so it soon reads its
own output. `Reading` says what it reads: the bytes at six positions as they came in, and symbols at
all others. The text is plain Base64 of what is read (`exists_reading`), hence it tells those bytes
of the input and nothing else (`inPlace_collides`). Without a buffer the encoder is an equation for
its text, which stands on both sides (`inPlace_quotes_itself`).
-/

namespace DeviceVerification.Base64

/-- The positions whose bytes are read before anything is written there. -/
def intact : List Nat := [0, 1, 2, 4, 5, 8]

/-- The byte of a group of three that lies behind the symbols of all groups before it is intact. -/
theorem mem_intact_iff {i : Nat} : i ∈ intact ↔ 4 * (i / 3) ≤ i := by
  simp only [intact, List.mem_cons, List.not_mem_nil, or_false]
  omega

theorem length_written (bs : Bytes) : (written bs).length = encodedLength bs.length := by
  rw [written, List.length_map, length_encodeChars]
  rfl

/-- The text of symbol bytes is the text of the symbols. -/
theorem ofCharCodes_written (bs : Bytes) : ofCharCodes (written bs) = encode bs := by
  have ascii : (alphabet.all fun c => Char.ofNat (UInt8.ofNat c.toNat).toNat == c) = true := by
    decide +kernel
  rw [ofCharCodes, encode, written, List.map_map]
  congr 1
  conv => rhs; rw [← List.map_id (encodeChars bs)]
  refine List.map_congr_left fun c mem => ?_
  exact eq_of_beq (List.all_eq_true.1 ascii c (mem_alphabet_of_mem_encodeChars bs c mem))

/-! ## One group -/

section

variable {done rest : Bytes} {i value : Nat}

theorem readAt_eq {buffer : Bytes} {b : UInt8} (found : buffer[i]? = some b) :
    readAt buffer i = some b.toNat := by
  rw [readAt, found]
  rfl

theorem writeSymbol_append (room : i < rest.length) :
    writeSymbol (done ++ rest) (done.length + i) value =
      some (done ++ rest.set i (symbolByte (value % 64))) := by
  have inside : done.length + i < (done ++ rest).length := by
    rw [List.length_append]
    omega
  rw [writeSymbol, if_pos inside, List.set_append_right _ _ (Nat.le_add_right _ _),
    Nat.add_sub_cancel_left]
  rfl

theorem writeSymbol_first {r : UInt8} (small : value < 64) :
    writeSymbol (done ++ r :: rest) done.length value =
      some (done ++ symbolByte value :: rest) := by
  have wrote : writeSymbol (done ++ r :: rest) (done.length + 0) value =
      some (done ++ symbolByte (value % 64) :: rest) := writeSymbol_append (Nat.succ_pos _)
  rwa [Nat.add_zero, Nat.mod_eq_of_lt small] at wrote

variable {groups pos : Nat} {a b c r₀ r₁ r₂ r₃ : UInt8}

/-- A full group is read and its symbols are written, the last one first. -/
theorem overwriteGroups_group (first : (done ++ r₀ :: r₁ :: r₂ :: r₃ :: rest)[pos]? = some a)
    (second : (done ++ r₀ :: r₁ :: r₂ :: r₃ :: rest)[pos + 1]? = some b)
    (third : (done ++ r₀ :: r₁ :: r₂ :: r₃ :: rest)[pos + 2]? = some c) :
    overwriteGroups (groups + 1) pos done.length (done ++ r₀ :: r₁ :: r₂ :: r₃ :: rest) =
      overwriteGroups groups (pos + 3) (done.length + 4) (done ++ (written [a, b, c] ++ rest)) := by
  have := a.toNat_lt
  have := b.toNat_lt
  have := c.toNat_lt
  simp only [overwriteGroups, readAt_eq first, readAt_eq second, readAt_eq third,
    Option.bind_eq_bind, Option.bind_some]
  rw [writeSymbol_append (by simp), Option.bind_some, writeSymbol_append (by simp),
    Option.bind_some, writeSymbol_append (by simp), Option.bind_some]
  simp only [List.set_cons_succ, List.set_cons_zero]
  rw [writeSymbol_first (by omega), Option.bind_some]
  rfl

/-- A last group of one byte. -/
theorem overwriteRest_one (only : (done ++ [r₀, r₁])[pos]? = some a) :
    overwriteRest 1 pos done.length (done ++ [r₀, r₁]) = some (done ++ written [a]) := by
  have := a.toNat_lt
  simp only [overwriteRest, readAt_eq only, Option.bind_eq_bind, Option.bind_some]
  rw [writeSymbol_append (by simp), Option.bind_some]
  simp only [List.set_cons_succ, List.set_cons_zero]
  rw [writeSymbol_first (by omega)]
  rfl

/-- A last group of two bytes. -/
theorem overwriteRest_two (first : (done ++ [r₀, r₁, r₂])[pos]? = some a)
    (second : (done ++ [r₀, r₁, r₂])[pos + 1]? = some b) :
    overwriteRest 2 pos done.length (done ++ [r₀, r₁, r₂]) = some (done ++ written [a, b]) := by
  have := a.toNat_lt
  have := b.toNat_lt
  have value : (a.toNat * 256 + b.toNat) * 4 = a.toNat * 1024 + b.toNat * 4 := by omega
  simp only [overwriteRest, readAt_eq first, readAt_eq second, Option.bind_eq_bind,
    Option.bind_some, value]
  rw [writeSymbol_append (by simp), Option.bind_some, writeSymbol_append (by simp),
    Option.bind_some]
  simp only [List.set_cons_succ, List.set_cons_zero]
  rw [writeSymbol_first (by omega)]
  rfl

end

/-! ## All groups -/

/-- The encoder at work on the last `n` bytes, reading from `pos` and writing from `out`. -/
def overwriteFrom (n pos out : Nat) (buffer : Bytes) : Option Bytes :=
  (overwriteGroups (n / 3) pos out buffer).bind
    (overwriteRest (n % 3) (pos + n / 3 * 3) (out + n / 3 * 4))

/-- The buffer when group `g` is read: the symbols of the groups before it have overwritten the
front of `rest`. -/
def bufferAt (done rest read : Bytes) (g : Nat) : Bytes :=
  done ++ ((written read).take (4 * g) ++ rest.drop (4 * g))

/-- What the encoder reads from `pos` on while it writes behind `done` over `rest`. -/
def Overtakes (pos : Nat) (done rest read : Bytes) : Prop :=
  ∀ i, i < read.length → read[i]? = (bufferAt done rest read (i / 3))[pos + i]?

/-- The first group is read before anything is written. -/
theorem overtakes_group {pos : Nat} {done rest read : Bytes} {r₀ r₁ r₂ r₃ a b c : UInt8}
    (first : (done ++ r₀ :: r₁ :: r₂ :: r₃ :: rest)[pos]? = some a)
    (second : (done ++ r₀ :: r₁ :: r₂ :: r₃ :: rest)[pos + 1]? = some b)
    (third : (done ++ r₀ :: r₁ :: r₂ :: r₃ :: rest)[pos + 2]? = some c)
    (later : Overtakes (pos + 3) (done ++ written [a, b, c]) rest read) :
    Overtakes pos done (r₀ :: r₁ :: r₂ :: r₃ :: rest) (a :: b :: c :: read) := by
  intro i inside
  match i with
  | 0 => exact first.symm
  | 1 => exact second.symm
  | 2 => exact third.symm
  | i + 3 =>
    have group : (i + 3) / 3 = i / 3 + 1 := by omega
    have buffer : bufferAt done (r₀ :: r₁ :: r₂ :: r₃ :: rest) (a :: b :: c :: read) (i / 3 + 1) =
        bufferAt (done ++ written [a, b, c]) rest read (i / 3) := by
      unfold bufferAt
      rw [Nat.mul_succ, List.append_assoc]
      rfl
    rw [group, buffer, show pos + (i + 3) = pos + 3 + i by omega]
    exact later i (by simpa using inside)

theorem exists_getElem? (buffer : Bytes) {i : Nat} (inside : i < buffer.length) :
    ∃ b, buffer[i]? = some b :=
  ⟨_, List.getElem?_eq_getElem inside⟩

/-- **What the encoder does.** Wherever it reads and writes, it stays in its buffer and leaves the
symbols of what it read. -/
theorem overwriteFrom_eq : ∀ (n pos : Nat) (done rest : Bytes),
    rest.length = encodedLength n → pos + n ≤ done.length + rest.length →
    ∃ read, read.length = n ∧ Overtakes pos done rest read ∧
      overwriteFrom n pos done.length (done ++ rest) = some (done ++ written read)
  | 0, pos, done, rest, size, room => by
    obtain rfl := List.eq_nil_of_length_eq_zero size
    exact ⟨[], rfl, nofun, rfl⟩
  | 1, pos, done, rest, size, room => by
    match rest, size with
    | [r₀, r₁], _ =>
      obtain ⟨a, only⟩ := exists_getElem? (done ++ [r₀, r₁]) (i := pos)
        (by simp at room ⊢; omega)
      refine ⟨[a], rfl, fun i inside => ?_, overwriteRest_one only⟩
      obtain rfl : i = 0 := by simpa using inside
      exact only.symm
  | 2, pos, done, rest, size, room => by
    match rest, size with
    | [r₀, r₁, r₂], _ =>
      obtain ⟨a, first⟩ := exists_getElem? (done ++ [r₀, r₁, r₂]) (i := pos)
        (by simp at room ⊢; omega)
      obtain ⟨b, second⟩ := exists_getElem? (done ++ [r₀, r₁, r₂]) (i := pos + 1)
        (by simp at room ⊢; omega)
      refine ⟨[a, b], rfl, fun i inside => ?_, overwriteRest_two first second⟩
      match i, inside with
      | 0, _ => exact first.symm
      | 1, _ => exact second.symm
  | n + 3, pos, done, rest, size, room => by
    have more : encodedLength (n + 3) = encodedLength n + 4 := by
      simp [encodedLength]
      omega
    rw [more] at size
    match rest, size with
    | r₀ :: r₁ :: r₂ :: r₃ :: rest, size =>
      obtain ⟨a, first⟩ := exists_getElem? (done ++ r₀ :: r₁ :: r₂ :: r₃ :: rest)
        (i := pos) (by simp at room ⊢; omega)
      obtain ⟨b, second⟩ := exists_getElem? (done ++ r₀ :: r₁ :: r₂ :: r₃ :: rest)
        (i := pos + 1) (by simp at room ⊢; omega)
      obtain ⟨c, third⟩ := exists_getElem? (done ++ r₀ :: r₁ :: r₂ :: r₃ :: rest)
        (i := pos + 2) (by simp at room ⊢; omega)
      obtain ⟨read, count, later, ran⟩ := overwriteFrom_eq n (pos + 3)
        (done ++ written [a, b, c]) rest (by simpa using size)
        (by simp [length_written, encodedLength] at room ⊢; omega)
      refine ⟨a :: b :: c :: read, by simp [count], overtakes_group first second third later, ?_⟩
      rw [written_group, ← List.append_assoc, ← ran, overwriteFrom, overwriteFrom,
        show (n + 3) / 3 = n / 3 + 1 by omega, show (n + 3) % 3 = n % 3 by omega,
        overwriteGroups_group first second third, List.length_append, ← List.append_assoc,
        show pos + (n / 3 + 1) * 3 = pos + 3 + n / 3 * 3 by omega,
        show done.length + (n / 3 + 1) * 4 = done.length + 4 + n / 3 * 4 by omega]
      rfl

/-! ## The whole input -/

/-- What the encoder reads of an input: at the intact positions the bytes of the input, at all
others the symbols that it has written there. -/
structure Reading (input read : Bytes) : Prop where
  length : read.length = input.length
  original : ∀ i, i < input.length → i ∈ intact → read[i]? = input[i]?
  overwritten : ∀ i, i < input.length → i ∉ intact → read[i]? = (written read)[i]?

theorem length_le_encodedLength (n : Nat) : n ≤ encodedLength n := by
  unfold encodedLength
  split <;> omega

/-- The encoder stays in its buffer, and its text is plain Base64 of what it reads. -/
theorem exists_reading (input : Bytes) : ∃ read, Reading input read ∧
    overwrite? input = some (written read) ∧ encodeInPlace input = encode read := by
  have fits := length_le_encodedLength input.length
  obtain ⟨read, count, overtakes, ran⟩ := overwriteFrom_eq input.length 0 []
    (input ++ List.replicate (encodedLength input.length - input.length) 0)
    (by simp; omega) (by simp)
  have size : (written read).length = encodedLength input.length := by rw [length_written, count]
  have stays : overwrite? input = some (written read) := by
    unfold overwriteFrom at ran
    simp only [List.nil_append, List.length_nil, Nat.zero_add] at ran
    unfold overwrite?
    simp only [Option.bind_eq_bind]
    rw [← Option.bind_assoc, ran, Option.bind_some, ← size, List.take_length]
  refine ⟨read, ⟨count, fun i inside mem => ?_, fun i inside mem => ?_⟩, stays, ?_⟩
  · have behind := mem_intact_iff.1 mem
    have groups : (written read).length ≥ 4 * (i / 3) := by omega
    rw [overtakes i (by omega), bufferAt, List.nil_append, Nat.zero_add,
      List.getElem?_append_right (by simp; omega), List.getElem?_drop, List.length_take,
      Nat.min_eq_left groups, Nat.add_sub_cancel' behind, List.getElem?_append_left inside]
  · have before : i < 4 * (i / 3) := by
      rw [mem_intact_iff] at mem
      omega
    rw [overtakes i (by omega), bufferAt, List.nil_append, Nat.zero_add,
      List.getElem?_append_left (by simp; omega), List.getElem?_take, if_pos before]
  · rw [encodeInPlace, stays, Option.getD_some, ofCharCodes_written]

/-- What the encoder reads is determined by the length and the bytes at the intact positions: a
symbol that is read belongs to a group that was read before. -/
theorem Reading.eq {input input' read read' : Bytes} (h : Reading input read)
    (h' : Reading input' read') (length : input.length = input'.length)
    (same : ∀ i ∈ intact, i < input.length → input[i]? = input'[i]?) : read = read' := by
  refine List.ext_getElem? fun i => ?_
  induction i using Nat.strong_induction_on with
  | _ i ih =>
    by_cases inside : i < input.length
    · by_cases mem : i ∈ intact
      · rw [h.original i inside mem, h'.original i (length ▸ inside) mem, same i mem inside]
      · rw [h.overwritten i inside mem, h'.overwritten i (length ▸ inside) mem, written, written,
          List.getElem?_map, List.getElem?_map, getElem?_encodeChars_congr fun j before => ih j ?_]
        rw [mem_intact_iff] at mem
        omega
    · rw [List.getElem?_eq_none (by rw [h.length]; omega),
        List.getElem?_eq_none (by rw [h'.length]; omega)]

/-! ## Collisions -/

theorem encode_inj {bs bs' : Bytes} (same : encode bs = encode bs') : bs = bs' :=
  encodeChars_inj (String.ofList_injective same)

/-- Two inputs have one text if and only if they have one length and agree at the intact
positions. -/
theorem encodeInPlace_eq_iff {x y : Bytes} : encodeInPlace x = encodeInPlace y ↔
    x.length = y.length ∧ ∀ i ∈ intact, i < x.length → x[i]? = y[i]? := by
  obtain ⟨read, reading, -, text⟩ := exists_reading x
  obtain ⟨read', reading', -, text'⟩ := exists_reading y
  rw [text, text']
  constructor
  · intro same
    obtain rfl := encode_inj same
    have length := reading.length.symm.trans reading'.length
    refine ⟨length, fun i mem inside => ?_⟩
    rw [← reading.original i inside mem, reading'.original i (length ▸ inside) mem]
  · rintro ⟨length, same⟩
    rw [reading.eq reading' length same]

/-- The bytes of an input at the intact positions. -/
def survivors (input : Bytes) : Fin 6 → Fin 256 := fun k => (input.getD (intact.get k) 0).toFin

/-- An input of a length that has the given bytes at the intact positions. -/
def spread (length : Nat) (bytes : Fin 6 → Fin 256) : Bytes :=
  (List.range length).map fun i =>
    match intact.finIdxOf? i with
    | some k => UInt8.ofFin (bytes k)
    | none => 0

/-- A text is a function of the length and of six bytes of the input. -/
theorem encodeInPlace_spread (input : Bytes) :
    encodeInPlace (spread input.length (survivors input)) = encodeInPlace input := by
  refine encodeInPlace_eq_iff.2 ⟨by simp [spread], fun i mem inside => ?_⟩
  have inside : i < input.length := by simpa [spread] using inside
  obtain ⟨k, found, rfl⟩ : ∃ k, intact.finIdxOf? i = some k ∧ intact.get k = i :=
    (by decide : ∀ i ∈ intact, ∃ k, intact.finIdxOf? i = some k ∧ intact.get k = i) i mem
  rw [spread, List.getElem?_map, List.getElem?_range inside, Option.map_some]
  simp only [found, survivors]
  rw [List.getD_eq_getElem?_getD, List.getElem?_eq_getElem inside]
  rfl

/-- **Collisions of the encoding in place.** Two inputs have one text if and only if they have one
length and agree at the positions 0, 1, 2, 4, 5 and 8 below it; so there are at most as many texts
of tags of a length as there are words of 48 bits. -/
theorem inPlace_collides :
    (∀ x y : Bytes, encodeInPlace x = encodeInPlace y ↔
      x.length = y.length ∧ ∀ i ∈ [0, 1, 2, 4, 5, 8], i < x.length → x[i]? = y[i]?) ∧
    ∀ n, {text | ∃ tag : Bytes, tag.length = n ∧ MacEncoding.legacy.write tag = text}.encard ≤
      2 ^ 48 := by
  refine ⟨fun x y => encodeInPlace_eq_iff, fun n => ?_⟩
  have covered : {text | ∃ tag : Bytes, tag.length = n ∧ MacEncoding.legacy.write tag = text} ⊆
      (fun bytes => encodeInPlace (spread n bytes)) '' Set.univ := by
    rintro text ⟨tag, rfl, rfl⟩
    exact ⟨survivors tag, trivial, encodeInPlace_spread tag⟩
  calc _ ≤ _ := Set.encard_le_encard covered
    _ ≤ (Set.univ : Set (Fin 6 → Fin 256)).encard := Set.encard_image_le _ _
    _ = 2 ^ 48 := by
      rw [Set.encard_univ, ENat.card_eq_coe_fintype_card, Fintype.card_fun, Fintype.card_fin,
        Fintype.card_fin, show 256 ^ 6 = 2 ^ 48 by decide, Nat.cast_pow]
      rfl

/-! ## The text as a part of its own source -/

/-- The characters of a text have the codes of the bytes that are written for it. -/
theorem codes_encode (bs : Bytes) :
    (encode bs).toList.map Char.toNat = (written bs).map UInt8.toNat := by
  rw [← ofCharCodes_written, codes_ofCharCodes]

/-- Bytes that are those of an input at the intact positions and, at all others, the codes of the
characters that a text has there. -/
structure Quotes (input : Bytes) (text : String) (bs : Bytes) : Prop where
  length : bs.length = input.length
  original : ∀ i, i < input.length → i ∈ intact → bs[i]? = input[i]?
  quoted : ∀ i, i < input.length → i ∉ intact →
    bs[i]?.map UInt8.toNat = text.toList[i]?.map Char.toNat

/-- The bytes that quote their own text are those that the encoder reads. -/
theorem quotes_encode_iff {input bs : Bytes} :
    Quotes input (encode bs) bs ↔ Reading input bs := by
  have same (i : Nat) :
      (encode bs).toList[i]?.map Char.toNat = (written bs)[i]?.map UInt8.toNat := by
    rw [← List.getElem?_map, ← List.getElem?_map, codes_encode]
  have injective : Function.Injective UInt8.toNat := fun _ _ => UInt8.toNat_inj.1
  constructor
  · intro h
    refine ⟨h.length, h.original, fun i inside mem => ?_⟩
    have quoted := h.quoted i inside mem
    rw [same] at quoted
    exact Option.map_injective injective quoted
  · intro h
    refine ⟨h.length, h.original, fun i inside mem => ?_⟩
    rw [same, h.overwritten i inside mem]

/-- **The encoding in place in its own terms.** The encoder stays in its buffer and leaves symbols
only. Its text is the one that is plain Base64 of the bytes which come from the input at the
positions 0, 1, 2, 4, 5 and 8 and from the text itself at all others. -/
theorem inPlace_quotes_itself (input : Bytes) :
    (overwrite? input).isSome ∧ Spelled (encodeInPlace input) ∧
      ∀ text, text = encodeInPlace input ↔ ∃ bs, Quotes input text bs ∧ text = encode bs := by
  obtain ⟨read, reading, stays, wrote⟩ := exists_reading input
  refine ⟨?_, ?_, fun text => ⟨?_, ?_⟩⟩
  · rw [stays]
    rfl
  · rw [wrote]
    exact spelled_encode read
  · rintro rfl
    refine ⟨read, ?_, wrote⟩
    rw [wrote]
    exact quotes_encode_iff.2 reading
  -- A text that solves the equation is made from bytes that the encoder reads: these are unique.
  · rintro ⟨bs, quotes, rfl⟩
    have reading' := quotes_encode_iff.1 quotes
    rw [wrote, reading'.eq reading rfl fun _ _ _ => rfl]

/-- The fourth byte of four is read as the symbol that stands in its place, the `j` of `YWJj`. -/
example : encodeInPlace (utf8 "abcd") = encode (utf8 "abcj") := by cbv

end DeviceVerification.Base64
