import DeviceVerification.Json.Printer
import DeviceVerification.Json.Reader

/-!
# What is written is read back

The written form of a value is read as this value (`Draft.read?_compact`), as long as its numbers
are integers that a document can hold. The lexer finds the tokens that `tokens` lists, and the
parser puts them together again. A number ends only where something else begins, so both halves of
the proof are about what comes next: the lexer may still be in the middle of a token that would be
complete if the text ended.
-/

namespace DeviceVerification

/-! ## Numbers -/

namespace Decimal

/-- The form of a number begins with a zero only if that is all of it. -/
theorem leading_digit (n : Nat) : ∃ d ds, (digits n).mapM digitValue? = some (d :: ds) ∧
    (0 < n → d ≠ 0) ∧ (n = 0 → ds = []) := by
  induction n using Nat.strongRecOn with
  | ind n ih =>
    rw [digits]
    split
    · rename_i small
      exact ⟨n, [], by simp [digitValue?_digit small], fun positive => by omega, fun _ => rfl⟩
    · obtain ⟨d, ds, front, positive, -⟩ := ih (n / 10) (by omega)
      refine ⟨d, ds ++ [n % 10], ?_, fun _ => positive (by omega), fun zero => by omega⟩
      simp [List.mapM_append, front, digitValue?_digit (Nat.mod_lt n (by decide : 0 < 10))]

end Decimal

namespace Number

theorem takeDigits_of_mapM {cs : List Char} {ds : List Nat}
    (h : cs.mapM Decimal.digitValue? = some ds) : takeDigits cs = (ds, []) := by
  induction cs generalizing ds with
  | nil =>
    obtain rfl : [] = ds := by simpa using h
    rfl
  | cons c rest ih =>
    rw [List.mapM_cons] at h
    obtain ⟨d, first, h⟩ := Option.bind_eq_some_iff.1 h
    obtain ⟨ds', front, h⟩ := Option.bind_eq_some_iff.1 h
    cases h
    rw [takeDigits, first, ih front]

theorem le_foldl_digits (ds : List Nat) (s : Nat) : s ≤ ds.foldl (fun n d => n * 10 + d) s := by
  induction ds generalizing s with
  | nil => exact Nat.le_refl s
  | cons d rest ih =>
    have := ih (s * 10 + d)
    rw [List.foldl_cons]
    omega

/-- Digits of a number that 64 bits hold are all taken. -/
theorem absorb_eq {ds : List Nat} {s : Nat}
    (h : ds.foldl (fun n d => n * 10 + d) s ≤ maxInteger) :
    absorb s ds = (ds.foldl (fun n d => n * 10 + d) s, 0) := by
  induction ds generalizing s with
  | nil => rfl
  | cons d rest ih =>
    rw [List.foldl_cons] at h ⊢
    have := le_foldl_digits rest (s * 10 + d)
    rw [absorb, if_neg (by omega), ih h]

/-- Digits, with a sign or without one, are a literal. -/
theorem literal?_digits (n : Nat) : ∃ ds, Decimal.ofDigitValues ds = n ∧
    literal? (Decimal.digits n) = some ⟨false, ds, none, none⟩ ∧
    literal? ('-' :: Decimal.digits n) = some ⟨true, ds, none, none⟩ := by
  obtain ⟨d, ds, values, positive, zero⟩ := Decimal.leading_digit n
  obtain ⟨ds', values', total⟩ := Decimal.value_digits n
  cases values.symm.trans values'
  have taken := takeDigits_of_mapM values
  have leading : ¬(d = 0 ∧ ds ≠ []) := by
    rintro ⟨rfl, more⟩
    rcases Nat.eq_zero_or_pos n with none | some
    · exact more (zero none)
    · exact positive some rfl
  have unsigned : ∀ rest, Decimal.digits n ≠ '-' :: rest := by
    intro rest eq
    obtain ⟨d, small, same⟩ := Decimal.mem_digits (n := n) (c := '-') (eq ▸ List.mem_cons_self)
    have : ∀ d < 10, '-' ≠ Decimal.digit d := by decide
    exact this d small same
  refine ⟨d :: ds, total, ?_, ?_⟩
  · unfold literal?
    split
    rename_i negative cs parts
    split at parts
    · rename_i rest eq
      exact absurd eq (unsigned rest)
    · cases parts
      rw [taken]
      simp only [if_neg leading]
      rfl
  · unfold literal?
    simp only [taken, if_neg leading]
    rfl

/-- An integer that 64 bits hold. -/
def InRange (i : Int) : Prop := -(minMagnitude : Int) ≤ i ∧ i ≤ (maxInteger : Int)

theorem inRange_toNat (n : UInt64) : InRange n.toNat := by
  have := n.toNat_lt
  constructor
  · omega
  · simp [maxInteger]
    omega

/-- An integer is read as it was written. -/
theorem number?_write {i : Int} (h : InRange i) :
    Json.Lexer.number? (write (.integer i)) = some (.number (some (.integer i))) := by
  obtain ⟨ds, total, unsigned, signed⟩ := literal?_digits i.natAbs
  obtain ⟨low, high⟩ := h
  have least : minMagnitude ≤ maxInteger := by decide
  have absorbed : absorb 0 ds = (i.natAbs, 0) := by
    have held : ds.foldl (fun n d => n * 10 + d) 0 ≤ maxInteger := by
      show Decimal.ofDigitValues ds ≤ maxInteger
      omega
    rw [absorb_eq held]
    exact congrArg (·, 0) total
  unfold write Json.Lexer.number?
  dsimp only
  split
  · rename_i negative
    have magnitude : ¬(i.natAbs = 0 ∨ minMagnitude < i.natAbs) := by omega
    have value : -(i.natAbs : Int) = i := by omega
    rw [signed, Option.map_some, Literal.value?, absorbed]
    dsimp only
    rw [if_neg (by decide), if_neg magnitude, value]
    rfl
  · rename_i positive
    have value : (i.natAbs : Int) = i := by omega
    rw [unsigned, Option.map_some, Literal.value?, absorbed]
    dsimp only
    rw [if_pos rfl, value]
    rfl

/-- An integer begins like a number and goes on with digits. -/
theorem write_integer (i : Int) : ∃ c rest, write (.integer i) = c :: rest ∧
    (c = '-' ∨ ∃ d < 10, c = Decimal.digit d) ∧ ∀ c ∈ rest, ∃ d < 10, c = Decimal.digit d := by
  unfold write
  dsimp only
  split
  · exact ⟨_, _, rfl, .inl rfl, fun c mem => Decimal.mem_digits mem⟩
  · cases written : Decimal.digits i.natAbs with
    | nil =>
      obtain ⟨d, ds, values, -⟩ := Decimal.leading_digit i.natAbs
      rw [written] at values
      cases values
    | cons c rest =>
      have digit (c' : Char) (mem : c' ∈ c :: rest) : ∃ d < 10, c' = Decimal.digit d :=
        Decimal.mem_digits (written ▸ mem)
      exact ⟨c, rest, rfl, .inr (digit c List.mem_cons_self),
        fun c' mem => digit c' (List.mem_cons_of_mem c mem)⟩

end Number

namespace Json

/-! ## Tokens -/

mutual

/-- The tokens of the written form of a value. -/
def tokens : Json → List Token
  | .null => [.null]
  | .bool b => [.bool b]
  | .number n => [.number (some n)]
  | .string s => [.string (some s)]
  | .array [] => [.openBracket, .closeBracket]
  | .array (j :: rest) => .openBracket :: (tokens j ++ itemTokens rest)
  | .object [] => [.openBrace, .closeBrace]
  | .object ((k, j) :: rest) =>
    .openBrace :: .string (some k) :: .colon :: (tokens j ++ memberTokens rest)

/-- The tokens of the further items of an array and its end. -/
def itemTokens : List Json → List Token
  | [] => [.closeBracket]
  | j :: rest => .comma :: (tokens j ++ itemTokens rest)

/-- The tokens of the further members of an object and its end. -/
def memberTokens : List (String × Json) → List Token
  | [] => [.closeBrace]
  | (k, j) :: rest => .comma :: .string (some k) :: .colon :: (tokens j ++ memberTokens rest)

end

/-- A lexer that stands between two tokens reads a text as these tokens, which would be complete if
the text ended there. -/
def Lexes (text : List Char) (found : List Token) : Prop :=
  ∀ before, ∃ l, text.foldlM Lexer.step ⟨before, .between⟩ = some l ∧
    l.finish? = some (found.reverse ++ before)

variable {l : Lexer} {before : List Token} {c : Char}

/-- A character that goes on with neither a word nor a number ends the last token of a value. -/
theorem step_delimiter (rests : l.finish? = some before)
    (outside : Lexer.isWordChar c = false ∧ Lexer.isNumberChar c = false) :
    l.step c = Lexer.stepBetween before c := by
  obtain ⟨found, mode⟩ := l
  cases mode with
  | between =>
    cases rests
    rfl
  | word letters => simp [Lexer.step, outside.1, rests]
  | number chars => simp [Lexer.step, outside.2, rests]
  | quoted reader => cases rests

theorem lexes_number {i : Int} (h : Number.InRange i) :
    Lexes (Number.write (.integer i)) [.number (some (.integer i))] := by
  intro before
  obtain ⟨c, rest, written, first, digits⟩ := Number.write_integer i
  have begins : Lexer.stepBetween before c = some ⟨before, .number [c]⟩ := by
    rcases first with rfl | ⟨d, small, rfl⟩
    · rfl
    · match d, small with
      | 0, _ | 1, _ | 2, _ | 3, _ | 4, _ | 5, _ | 6, _ | 7, _ | 8, _ | 9, _ => rfl
  have goes : ∀ (rest : List Char) (chars : List Char),
      (∀ c ∈ rest, ∃ d < 10, c = Decimal.digit d) →
      rest.foldlM Lexer.step ⟨before, .number chars⟩ =
        some ⟨before, .number (rest.reverse ++ chars)⟩ := by
    intro rest
    induction rest with
    | nil => exact fun _ _ => rfl
    | cons c rest ih =>
      intro chars digits
      obtain ⟨d, small, rfl⟩ := digits c List.mem_cons_self
      have inside : ∀ d < 10, Lexer.isNumberChar (Decimal.digit d) = true := by decide
      have next : Lexer.step ⟨before, .number chars⟩ (Decimal.digit d) =
          some ⟨before, .number (Decimal.digit d :: chars)⟩ := by
        simp [Lexer.step, inside d small]
      rw [List.foldlM_cons, next]
      have tail := ih (Decimal.digit d :: chars) fun c mem => digits c (List.mem_cons_of_mem _ mem)
      simpa using tail
  refine ⟨⟨before, .number (rest.reverse ++ [c])⟩, ?_, ?_⟩
  · rw [written, List.foldlM_cons]
    show (Lexer.stepBetween before c).bind _ = _
    rw [begins]
    exact goes rest [c] digits
  · have whole : (rest.reverse ++ [c]).reverse = Number.write (.integer i) := by
      simp [written]
    simp [Lexer.finish?, whole, Number.number?_write h]

/-! ### Texts -/

/-- A quoted text whose characters so far are these, in reverse order. -/
def QuoteReader.holding (chars : List Char) : QuoteReader := ⟨chars, none, true, .plain⟩

/-- The digits of a control character are read as its number. -/
theorem hexValue?_digit {n : Nat} (h : n < 16) : hexValue? (Hex.digit n) = some n := by
  have : ∀ n < 16, hexValue? (Hex.digit n) = some n := by decide
  exact this n h

/-- The written form of a character is read as this character. -/
theorem foldlM_escape (before : List Token) (chars : List Char) (c : Char) :
    (escape c).foldlM Lexer.step ⟨before, .quoted (.holding chars)⟩ =
      some ⟨before, .quoted (.holding (c :: chars))⟩ := by
  have named : ∀ n, c.toNat = n → c = Char.ofNat n := by
    rintro n rfl
    exact (Char.ofNat_toNat c).symm
  unfold escape
  split
  · rename_i eq; subst eq; rfl
  split
  · rename_i eq; subst eq; rfl
  split
  · rename_i eq; rw [named 8 eq]; rfl
  split
  · rename_i eq; rw [named 9 eq]; rfl
  split
  · rename_i eq; rw [named 10 eq]; rfl
  split
  · rename_i eq; rw [named 12 eq]; rfl
  split
  · rename_i eq; rw [named 13 eq]; rfl
  split
  · rename_i control
    have high := hexValue?_digit (n := c.toNat / 16) (by omega)
    have low := hexValue?_digit (n := c.toNat % 16) (by omega)
    -- the first four characters are fixed, and the two digits make the number of the character
    show [Hex.digit (c.toNat / 16), Hex.digit (c.toNat % 16)].foldlM Lexer.step
      ⟨before, .quoted ⟨chars, none, true, .unicode 1 0⟩⟩ = _
    have number : c.toNat / 16 * 16 + c.toNat % 16 = c.toNat := by omega
    have unit : ¬(0xD800 ≤ c.toNat ∧ c.toNat ≤ 0xDBFF) ∧
        ¬(0xDC00 ≤ c.toNat ∧ c.toNat ≤ 0xDFFF) := by
      omega
    simp [Lexer.step, QuoteReader.ends, QuoteReader.step, high, low, number, unit,
      QuoteReader.pushUnit, QuoteReader.push, QuoteReader.holding]
  · rename_i quote backslash _ _ _ _ _ printable
    simp [Lexer.step, QuoteReader.ends, QuoteReader.step, QuoteReader.holding, QuoteReader.push,
      quote, backslash, printable]

/-- The written form of a text is one token. -/
theorem foldlM_quote (before : List Token) (s : String) :
    (quote s).foldlM Lexer.step ⟨before, .between⟩ =
      some ⟨.string (some s) :: before, .between⟩ := by
  have inside : ∀ cs chars : List Char,
      (cs.flatMap escape).foldlM Lexer.step ⟨before, .quoted (.holding chars)⟩ =
        some ⟨before, .quoted (.holding (cs.reverse ++ chars))⟩ := by
    intro cs
    induction cs with
    | nil => exact fun _ => rfl
    | cons c rest ih =>
      intro chars
      have tail := ih (c :: chars)
      rw [List.flatMap_cons, List.foldlM_append, foldlM_escape]
      simpa using tail
  have closing : Lexer.step ⟨before, .quoted (.holding s.toList.reverse)⟩ '"' =
      some ⟨.string (some s) :: before, .between⟩ := by
    simp [Lexer.step, QuoteReader.ends, QuoteReader.holding, QuoteReader.text?]
  rw [quote, List.foldlM_cons]
  show (s.toList.flatMap escape ++ ['"']).foldlM Lexer.step ⟨before, .quoted (.holding [])⟩ = _
  rw [List.foldlM_append, inside, List.append_nil]
  simpa using closing

/-! ### Values -/

/-- A value that a document gives back: its numbers are integers that a document can hold, no object
repeats a key, and at most `levels` arrays and objects lie inside each other. -/
inductive Plain : (levels : Nat) → Json → Prop where
  | null (levels : Nat) : Plain levels .null
  | bool (levels : Nat) (b : Bool) : Plain levels (.bool b)
  | integer (levels : Nat) {i : Int} (h : Number.InRange i) : Plain levels (.number (.integer i))
  | string (levels : Nat) (s : String) : Plain levels (.string s)
  | array {levels : Nat} {items : List Json} (h : ∀ j ∈ items, Plain levels j) :
      Plain (levels + 1) (.array items)
  | object {levels : Nat} {members : List (String × Json)} (keys : (members.map (·.1)).Nodup)
      (h : ∀ m ∈ members, Plain levels m.2) : Plain (levels + 1) (.object members)

/-- The lexer goes past a text to what comes behind it. -/
theorem Lexes.foldlM_append {text tail : List Char} {found : List Token} {after : Lexer}
    (h : Lexes text found)
    (rest : ∀ l : Lexer, l.finish? = some (found.reverse ++ before) →
      tail.foldlM Lexer.step l = some after) :
    (text ++ tail).foldlM Lexer.step ⟨before, .between⟩ = some after := by
  obtain ⟨l, goes, rests⟩ := h before
  rw [List.foldlM_append, goes]
  exact rest l rests

theorem foldlM_printItems {items : List Json} (h : ∀ j ∈ items, Lexes j.print (tokens j))
    (rests : l.finish? = some before) :
    (printItems items).foldlM Lexer.step l =
      some ⟨(itemTokens items).reverse ++ before, .between⟩ := by
  induction items generalizing l before with
  | nil =>
    rw [printItems, List.foldlM_cons, step_delimiter rests (by decide)]
    rfl
  | cons j rest ih =>
    rw [printItems, List.foldlM_cons, step_delimiter rests (by decide)]
    show (j.print ++ printItems rest).foldlM Lexer.step ⟨.comma :: before, .between⟩ = _
    refine (h j List.mem_cons_self).foldlM_append fun l' rests' => ?_
    rw [ih (fun i mem => h i (List.mem_cons_of_mem _ mem)) rests']
    simp [itemTokens]

/-- A member of an object: its key, the colon and the text of its value. -/
theorem foldlM_printMember {k : String} {text : List Char} {found : List Token} {tail : List Char}
    {after : Lexer} (h : Lexes text found)
    (rest : ∀ l : Lexer,
      l.finish? = some (found.reverse ++ .colon :: .string (some k) :: before) →
        tail.foldlM Lexer.step l = some after) :
    (quote k ++ ':' :: (text ++ tail)).foldlM Lexer.step ⟨before, .between⟩ = some after := by
  rw [List.foldlM_append, foldlM_quote]
  show (text ++ tail).foldlM Lexer.step ⟨.colon :: .string (some k) :: before, .between⟩ = _
  exact h.foldlM_append rest

theorem foldlM_printMembers {members : List (String × Json)}
    (h : ∀ m ∈ members, Lexes m.2.print (tokens m.2)) (rests : l.finish? = some before) :
    (printMembers members).foldlM Lexer.step l =
      some ⟨(memberTokens members).reverse ++ before, .between⟩ := by
  induction members generalizing l before with
  | nil =>
    rw [printMembers, List.foldlM_cons, step_delimiter rests (by decide)]
    rfl
  | cons m rest ih =>
    obtain ⟨k, j⟩ := m
    rw [printMembers, List.foldlM_cons, step_delimiter rests (by decide)]
    show (quote k ++ ':' :: (j.print ++ printMembers rest)).foldlM Lexer.step
      ⟨.comma :: before, .between⟩ = _
    refine foldlM_printMember (h _ List.mem_cons_self) fun l' rests' => ?_
    rw [ih (fun i mem => h i (List.mem_cons_of_mem _ mem)) rests']
    simp [memberTokens]

/-- The written form of a value is read as its tokens. -/
theorem Plain.lexes {levels : Nat} {j : Json} (h : Plain levels j) : Lexes j.print (tokens j) := by
  induction h with
  | null => exact fun before => ⟨_, rfl, rfl⟩
  | bool _ b => cases b <;> exact fun before => ⟨_, rfl, rfl⟩
  | integer _ h =>
    rw [print, tokens]
    exact lexes_number h
  | string _ s =>
    intro before
    rw [print, tokens, foldlM_quote]
    exact ⟨_, rfl, rfl⟩
  | @array _ items _ ih =>
    intro before
    cases items with
    | nil => exact ⟨_, rfl, rfl⟩
    | cons j rest =>
      refine ⟨⟨(tokens (.array (j :: rest))).reverse ++ before, .between⟩, ?_, rfl⟩
      rw [print, List.foldlM_cons]
      show (j.print ++ printItems rest).foldlM Lexer.step ⟨.openBracket :: before, .between⟩ = _
      refine (ih j List.mem_cons_self).foldlM_append fun l rests => ?_
      rw [foldlM_printItems (fun i mem => ih i (List.mem_cons_of_mem _ mem)) rests]
      simp [tokens]
  | @object _ members _ _ ih =>
    intro before
    cases members with
    | nil => exact ⟨_, rfl, rfl⟩
    | cons m rest =>
      obtain ⟨k, j⟩ := m
      refine ⟨⟨(tokens (.object ((k, j) :: rest))).reverse ++ before, .between⟩, ?_, rfl⟩
      rw [print, List.foldlM_cons]
      show (quote k ++ ':' :: (j.print ++ printMembers rest)).foldlM Lexer.step
        ⟨.openBrace :: before, .between⟩ = _
      refine foldlM_printMember (ih _ List.mem_cons_self) fun l rests => ?_
      rw [foldlM_printMembers (fun i mem => ih i (List.mem_cons_of_mem _ mem)) rests]
      simp [tokens]

/-! ## Parsing -/

open Draft (ofJson ofItems ofMembers)

/-- A value begins with a token that does not end an array. -/
theorem step_itemOrClose (j : Json) (outer : Context) :
    (tokens j).foldlM Parser.step (.itemOrClose outer) =
      (tokens j).foldlM Parser.step (.value (.item [] outer)) := by
  cases j with
  | null | bool | number | string => rfl
  | array items => cases items <;> rfl
  | object members => cases members <;> rfl

theorem foldlM_itemTokens {items : List Json}
    (h : ∀ j ∈ items, ∀ context, (tokens j).foldlM Parser.step (.value context) =
      some (Parser.fill context (ofJson j)))
    (done : List Draft) (outer : Context) :
    (itemTokens items).foldlM Parser.step (.afterItem done outer) =
      some (Parser.fill outer (.array (done.reverse ++ ofItems items))) := by
  induction items generalizing done with
  | nil =>
    rw [ofItems, List.append_nil]
    rfl
  | cons j rest ih =>
    rw [itemTokens, List.foldlM_cons]
    show (tokens j ++ itemTokens rest).foldlM Parser.step (.value (.item done outer)) = _
    rw [List.foldlM_append, h j List.mem_cons_self]
    have tail := ih (fun i mem => h i (List.mem_cons_of_mem _ mem)) (ofJson j :: done)
    simpa [ofItems, Parser.fill] using tail

theorem foldlM_memberTokens {members : List (String × Json)}
    (h : ∀ m ∈ members, ∀ context, (tokens m.2).foldlM Parser.step (.value context) =
      some (Parser.fill context (ofJson m.2)))
    (done : List (Option String × Draft)) (outer : Context) :
    (memberTokens members).foldlM Parser.step (.afterField done outer) =
      some (Parser.fill outer (.object (done.reverse ++ ofMembers members))) := by
  induction members generalizing done with
  | nil =>
    rw [ofMembers, List.append_nil]
    rfl
  | cons m rest ih =>
    obtain ⟨k, j⟩ := m
    rw [memberTokens, List.foldlM_cons]
    show (tokens j ++ memberTokens rest).foldlM Parser.step
      (.value (.field done (some k) outer)) = _
    rw [List.foldlM_append, h _ List.mem_cons_self]
    have tail := ih (fun i mem => h i (List.mem_cons_of_mem _ mem)) ((some k, ofJson j) :: done)
    simpa [ofMembers, Parser.fill] using tail

/-- The parser puts the tokens of a value together again. -/
theorem Plain.parses {levels : Nat} {j : Json} (h : Plain levels j) :
    ∀ context, (tokens j).foldlM Parser.step (.value context) =
      some (Parser.fill context (ofJson j)) := by
  induction h with
  | null | bool | integer | string => exact fun context => rfl
  | @array _ items _ ih =>
    intro context
    cases items with
    | nil => rfl
    | cons j rest =>
      rw [tokens, List.foldlM_cons]
      show (tokens j ++ itemTokens rest).foldlM Parser.step (.itemOrClose context) = _
      rw [List.foldlM_append, step_itemOrClose, ih j List.mem_cons_self]
      have tail := foldlM_itemTokens (fun i mem => ih i (List.mem_cons_of_mem _ mem))
        [ofJson j] context
      simpa [ofJson, ofItems, Parser.fill] using tail
  | @object _ members _ _ ih =>
    intro context
    cases members with
    | nil => rfl
    | cons m rest =>
      obtain ⟨k, j⟩ := m
      rw [tokens, List.foldlM_cons]
      show (tokens j ++ memberTokens rest).foldlM Parser.step
        (.value (.field [] (some k) context)) = _
      rw [List.foldlM_append, ih _ List.mem_cons_self]
      have tail := foldlM_memberTokens (fun i mem => ih i (List.mem_cons_of_mem _ mem))
        [(some k, ofJson j)] context
      simpa [ofJson, ofMembers, Parser.fill] using tail

/-- A text of the tokens of a value is read as this value. -/
theorem Plain.read?_eq {levels : Nat} {j : Json} (h : Plain levels j) {text : List Char}
    (lexes : Lexes text (tokens j)) : Draft.read? (String.ofList text) = some (.ofJson j) := by
  obtain ⟨l, goes, rests⟩ := lexes []
  have found : tokens? text = some (tokens j) := by
    rw [tokens?, Lexer.start, goes]
    simp [rests]
  simp [Draft.read?, found, h.parses .top, Parser.fill, Parser.result?]

/-- **What is written is read back**: the text of a value is read as this value. -/
theorem Draft.read?_compact {levels : Nat} {j : Json} (h : Plain levels j) :
    Draft.read? j.compact = some (.ofJson j) :=
  h.read?_eq h.lexes

/-! ## What is sound -/

theorem ofItems_eq_map (items : List Json) : ofItems items = items.map ofJson := by
  induction items with
  | nil => rfl
  | cons j rest ih => rw [ofItems, ih, List.map_cons]

theorem ofMembers_eq_map (members : List (String × Json)) :
    ofMembers members = members.map fun m => (some m.1, ofJson m.2) := by
  induction members with
  | nil => rfl
  | cons m rest ih => rw [ofMembers, ih, List.map_cons]

theorem areSound_iff {levels : Nat} {items : List Draft} :
    Draft.areSound levels items = true ↔ ∀ d ∈ items, d.isSound levels = true := by
  induction items with
  | nil => simp [Draft.areSound]
  | cons d rest ih => simp [Draft.areSound, ih]

theorem membersSound_iff {levels : Nat} {members : List (Option String × Draft)} :
    Draft.membersSound levels members = true ↔
      ∀ m ∈ members, m.1.isSome = true ∧ m.2.isSound levels = true := by
  induction members with
  | nil => simp [Draft.membersSound]
  | cons m rest ih => simp [Draft.membersSound, ih]

/-- What is read back is sound as a whole. -/
theorem Plain.isSound {levels : Nat} {j : Json} (h : Plain levels j) :
    (ofJson j).isSound levels = true := by
  induction h with
  | null | bool | integer | string => rfl
  | array _ ih =>
    rw [ofJson, ofItems_eq_map, Draft.isSound, Bool.and_eq_true, areSound_iff]
    refine ⟨by simp, fun d mem => ?_⟩
    obtain ⟨j, listed, rfl⟩ := List.mem_map.1 mem
    exact ih j listed
  | object _ _ ih =>
    rw [ofJson, ofMembers_eq_map, Draft.isSound, Bool.and_eq_true, membersSound_iff]
    refine ⟨by simp, fun d mem => ?_⟩
    obtain ⟨m, listed, rfl⟩ := List.mem_map.1 mem
    exact ⟨rfl, ih m listed⟩

/-- More levels do no harm. -/
theorem Plain.mono {levels more : Nat} {j : Json} (h : Plain levels j) (le : levels ≤ more) :
    Plain more j := by
  induction h generalizing more with
  | null => exact .null more
  | bool _ b => exact .bool more b
  | integer _ h => exact .integer more h
  | string _ s => exact .string more s
  | array _ ih =>
    obtain ⟨more, rfl⟩ := Nat.exists_eq_add_of_le' (Nat.le_of_add_left_le le)
    exact .array fun j mem => ih j mem (by omega)
  | object keys _ ih =>
    obtain ⟨more, rfl⟩ := Nat.exists_eq_add_of_le' (Nat.le_of_add_left_le le)
    exact .object keys fun m mem => ih m mem (by omega)

end Json

end DeviceVerification
