import DeviceVerification.Json.Printer

/-!
# Where a written value ends

Numbers apart, the written form of a value tells where it ends: no text begins with the written
forms of two different values (`print_append_inj`). This comes down to characters, each of which is
written as itself, by a letter after a backslash, or by its number, and never so that a quote stands
alone.
-/

namespace DeviceVerification.Json

/-! ## Characters -/

/-- The characters that are written by a letter after a backslash, each with its letter. -/
def shortEscapes : List (Char × Char) :=
  [('"', '"'), ('\\', '\\'), ('\x08', 'b'), ('\t', 't'), ('\n', 'n'), ('\x0c', 'f'), ('\r', 'r')]

/-- The written forms of a character inside a text. -/
inductive Written (c : Char) : List Char → Prop where
  | plain (quote : c ≠ '"') (backslash : c ≠ '\\') : Written c [c]
  | short {letter : Char} (h : (c, letter) ∈ shortEscapes) : Written c ['\\', letter]
  | coded (control : c.toNat < 32) :
      Written c ['\\', 'u', '0', '0', Hex.digit (c.toNat / 16), Hex.digit (c.toNat % 16)]

theorem written_escape (c : Char) : Written c (escape c) := by
  have named : ∀ n, c.toNat = n → c = Char.ofNat n := by
    rintro n rfl
    exact (Char.ofNat_toNat c).symm
  unfold escape
  split
  · rename_i eq; subst eq; exact .short (by decide)
  split
  · rename_i eq; subst eq; exact .short (by decide)
  split
  · rename_i eq; rw [named 8 eq]; exact .short (by decide)
  split
  · rename_i eq; rw [named 9 eq]; exact .short (by decide)
  split
  · rename_i eq; rw [named 10 eq]; exact .short (by decide)
  split
  · rename_i eq; rw [named 12 eq]; exact .short (by decide)
  split
  · rename_i eq; rw [named 13 eq]; exact .short (by decide)
  split
  · rename_i control
    exact .coded control
  · rename_i quote backslash _ _ _ _ _ _
    exact .plain quote backslash

/-- The letter of a short form tells the character, and is never the one that announces a number. -/
theorem shortEscapes_letter : ∀ e ∈ shortEscapes,
    e.2 ≠ 'u' ∧ ∀ e' ∈ shortEscapes, e.2 = e'.2 → e.1 = e'.1 := by
  decide

/-- Two hexadecimal digits tell a control character. -/
theorem control_of_digits : ∀ m < 32, ∀ n < 32, Hex.digit (m / 16) = Hex.digit (n / 16) →
    Hex.digit (m % 16) = Hex.digit (n % 16) → m = n := by
  decide

variable {c d : Char} {text text' r s : List Char}

/-- The written form of a character does not begin with a quote. -/
theorem Written.head_ne_quote (h : Written c text) : text ++ r ≠ '"' :: s := by
  cases h with
  | plain quote => exact fun eq => quote (List.cons.inj eq).1
  | short => simp
  | coded => simp

/-- No text begins with the written forms of two different characters. -/
theorem Written.append_inj (h : Written c text) (h' : Written d text')
    (eq : text ++ r = text' ++ s) : c = d ∧ r = s := by
  cases h with
  | plain quote backslash =>
    cases h' with
    | plain => simpa using eq
    | short | coded => exact absurd (List.cons.inj eq).1 backslash
  | @short letter listed =>
    cases h' with
    | plain quote backslash => exact absurd (List.cons.inj eq).1.symm backslash
    | @short letter' listed' =>
      obtain ⟨letters, rest⟩ : letter = letter' ∧ r = s := by simpa using eq
      exact ⟨(shortEscapes_letter _ listed).2 _ listed' letters, rest⟩
    | coded =>
      have announced : letter = 'u' := by simp at eq; exact eq.1
      exact absurd announced (shortEscapes_letter _ listed).1
  | coded control =>
    cases h' with
    | plain quote backslash => exact absurd (List.cons.inj eq).1.symm backslash
    | @short letter' listed' =>
      have announced : letter' = 'u' := by simp at eq; exact eq.1.symm
      exact absurd announced (shortEscapes_letter _ listed').1
    | coded control' =>
      obtain ⟨high, low, rest⟩ : Hex.digit (c.toNat / 16) = Hex.digit (d.toNat / 16) ∧
          Hex.digit (c.toNat % 16) = Hex.digit (d.toNat % 16) ∧ r = s := by simpa using eq
      have same : c.toNat = d.toNat := control_of_digits _ control _ control' high low
      exact ⟨Char.toNat_inj.1 same, rest⟩

/-! ## Texts -/

/-- A text ends at the first quote that is not part of a written character. -/
theorem escapes_append_inj {l l' : List Char}
    (eq : l.flatMap escape ++ '"' :: r = l'.flatMap escape ++ '"' :: s) : l = l' ∧ r = s := by
  induction l generalizing l' with
  | nil =>
    cases l' with
    | nil => exact ⟨rfl, (List.cons.inj eq).2⟩
    | cons d rest' =>
      rw [List.flatMap_cons, List.append_assoc] at eq
      exact absurd eq.symm (written_escape d).head_ne_quote
  | cons c rest ih =>
    rw [List.flatMap_cons, List.append_assoc] at eq
    cases l' with
    | nil => exact absurd eq (written_escape c).head_ne_quote
    | cons d rest' =>
      rw [List.flatMap_cons, List.append_assoc] at eq
      obtain ⟨rfl, tail⟩ := (written_escape c).append_inj (written_escape d) eq
      obtain ⟨rfl, after⟩ := ih tail
      exact ⟨rfl, after⟩

theorem quote_append_inj {a b : String} (eq : quote a ++ r = quote b ++ s) : a = b ∧ r = s := by
  have inside : a.toList.flatMap escape ++ '"' :: r = b.toList.flatMap escape ++ '"' :: s := by
    simpa [quote] using eq
  obtain ⟨chars, after⟩ := escapes_append_inj inside
  exact ⟨String.toList_inj.1 chars, after⟩

/-! ## Values -/

/-- A value in which no number occurs. -/
inductive NumberFree : Json → Prop where
  | null : NumberFree .null
  | bool (b : Bool) : NumberFree (.bool b)
  | string (s : String) : NumberFree (.string s)
  | array {items : List Json} (h : ∀ j ∈ items, NumberFree j) : NumberFree (.array items)
  | object {members : List (String × Json)} (h : ∀ m ∈ members, NumberFree m.2) :
      NumberFree (.object members)

/-- No text begins with the written form of a value and with the one of another value. -/
def EndsItself (j : Json) : Prop :=
  ∀ k r s, NumberFree k → j.print ++ r = k.print ++ s → j = k ∧ r = s

/-- The first character of a value without numbers. -/
def opening : Json → Char
  | .null => 'n'
  | .bool true => 't'
  | .bool false => 'f'
  | .number _ => '0'
  | .string _ => '"'
  | .array _ => '['
  | .object _ => '{'

theorem print_eq_opening_cons {j : Json} (h : NumberFree j) :
    ∃ rest, j.print = j.opening :: rest := by
  cases h with
  | null => exact ⟨_, by rw [print, opening]⟩
  | bool b => cases b <;> exact ⟨_, by rw [print, opening]⟩
  | string s => exact ⟨_, by rw [print, quote, opening]⟩
  | @array items => cases items <;> exact ⟨_, by rw [print, opening]⟩
  | @object members => cases members <;> exact ⟨_, by rw [print, opening]⟩

theorem opening_ne_bracket {j : Json} (h : NumberFree j) : j.opening ≠ ']' := by
  cases h with
  | bool b => cases b <;> simp [opening]
  | _ => simp [opening]

/-- Written forms that begin alike have the same first character. -/
theorem opening_eq_of_print {j k : Json} (free : NumberFree j) (free' : NumberFree k)
    (eq : j.print ++ r = k.print ++ s) : j.opening = k.opening := by
  obtain ⟨rest, written⟩ := print_eq_opening_cons free
  obtain ⟨rest', written'⟩ := print_eq_opening_cons free'
  rw [written, written'] at eq
  exact (List.cons.inj eq).1

/-- The further items of an array end with it. -/
theorem printItems_append_inj {items items' : List Json} (ends : ∀ j ∈ items, EndsItself j)
    (free : ∀ k ∈ items', NumberFree k) (eq : printItems items ++ r = printItems items' ++ s) :
    items = items' ∧ r = s := by
  induction items generalizing items' with
  | nil =>
    cases items' with
    | nil => exact ⟨rfl, by simpa [printItems] using eq⟩
    | cons k rest' => simp [printItems] at eq
  | cons j rest ih =>
    cases items' with
    | nil => simp [printItems] at eq
    | cons k rest' =>
      have inside : j.print ++ (printItems rest ++ r) = k.print ++ (printItems rest' ++ s) := by
        simpa [printItems] using eq
      obtain ⟨rfl, tail⟩ := ends j List.mem_cons_self k _ _ (free k List.mem_cons_self) inside
      obtain ⟨rfl, after⟩ := ih (fun i mem => ends i (List.mem_cons_of_mem _ mem))
        (fun i mem => free i (List.mem_cons_of_mem _ mem)) tail
      exact ⟨rfl, after⟩

/-- The further members of an object end with it. -/
theorem printMembers_append_inj {members members' : List (String × Json)}
    (ends : ∀ m ∈ members, EndsItself m.2) (free : ∀ m ∈ members', NumberFree m.2)
    (eq : printMembers members ++ r = printMembers members' ++ s) :
    members = members' ∧ r = s := by
  induction members generalizing members' with
  | nil =>
    cases members' with
    | nil => exact ⟨rfl, by simpa [printMembers] using eq⟩
    | cons m rest' => simp [printMembers] at eq
  | cons m rest ih =>
    cases members' with
    | nil => simp [printMembers] at eq
    | cons m' rest' =>
      obtain ⟨key, j⟩ := m
      obtain ⟨key', k⟩ := m'
      have inside : quote key ++ ':' :: (j.print ++ (printMembers rest ++ r)) =
          quote key' ++ ':' :: (k.print ++ (printMembers rest' ++ s)) := by
        simpa [printMembers] using eq
      obtain ⟨rfl, value⟩ := quote_append_inj inside
      obtain ⟨rfl, tail⟩ := ends _ List.mem_cons_self k _ _ (free _ List.mem_cons_self)
        (List.cons.inj value).2
      obtain ⟨rfl, after⟩ := ih (fun i mem => ends i (List.mem_cons_of_mem _ mem))
        (fun i mem => free i (List.mem_cons_of_mem _ mem)) tail
      exact ⟨rfl, after⟩

/-- An array is its first item and the further ones. -/
theorem endsItself_array {items : List Json} (free : ∀ j ∈ items, NumberFree j)
    (ends : ∀ j ∈ items, EndsItself j) : EndsItself (.array items) := by
  intro k r s other eq
  have same := opening_eq_of_print (.array free) other eq
  cases other with
  | bool b => cases b <;> simp [opening] at same
  | null | string | object => simp [opening] at same
  | @array items' free' =>
    cases items with
    | nil =>
      cases items' with
      | nil => exact ⟨rfl, by simpa [print] using eq⟩
      | cons k rest' =>
        have free' := free' k List.mem_cons_self
        obtain ⟨text, written⟩ := print_eq_opening_cons free'
        simp [print, written, (opening_ne_bracket free').symm] at eq
    | cons j rest =>
      cases items' with
      | nil =>
        have free := free j List.mem_cons_self
        obtain ⟨text, written⟩ := print_eq_opening_cons free
        simp [print, written, opening_ne_bracket free] at eq
      | cons k rest' =>
        -- behind the bracket both read like further items, less the first comma
        have inside : printItems (j :: rest) ++ r = printItems (k :: rest') ++ s := by
          simpa [print, printItems] using eq
        obtain ⟨items, after⟩ := printItems_append_inj ends free' inside
        exact ⟨congrArg Json.array items, after⟩

/-- An object is its first member and the further ones. -/
theorem endsItself_object {members : List (String × Json)}
    (free : ∀ m ∈ members, NumberFree m.2) (ends : ∀ m ∈ members, EndsItself m.2) :
    EndsItself (.object members) := by
  intro k r s other eq
  have same := opening_eq_of_print (.object free) other eq
  cases other with
  | bool b => cases b <;> simp [opening] at same
  | null | string | array => simp [opening] at same
  | @object members' free' =>
    cases members with
    | nil =>
      cases members' with
      | nil => exact ⟨rfl, by simpa [print] using eq⟩
      | cons m rest' => simp [print, quote] at eq
    | cons m rest =>
      cases members' with
      | nil => simp [print, quote] at eq
      | cons m' rest' =>
        have inside : printMembers (m :: rest) ++ r = printMembers (m' :: rest') ++ s := by
          simpa [print, printMembers] using eq
        obtain ⟨members, after⟩ := printMembers_append_inj ends free' inside
        exact ⟨congrArg Json.object members, after⟩

theorem endsItself_of_numberFree {j : Json} (free : NumberFree j) : EndsItself j := by
  induction free with
  | array free ends => exact endsItself_array free ends
  | object free ends => exact endsItself_object free ends
  | null =>
    intro k r s other eq
    have same := opening_eq_of_print .null other eq
    cases other with
    | null => exact ⟨rfl, by simpa [print] using eq⟩
    | bool b => cases b <;> simp [opening] at same
    | string | array | object => simp [opening] at same
  | bool b =>
    intro k r s other eq
    have same := opening_eq_of_print (.bool b) other eq
    cases other with
    | bool b' => cases b <;> cases b' <;> simp_all [print, opening]
    | null | string | array | object => cases b <;> simp [opening] at same
  | string text =>
    intro k r s other eq
    have same := opening_eq_of_print (.string text) other eq
    cases other with
    | string text' =>
      obtain ⟨rfl, after⟩ := quote_append_inj eq
      exact ⟨rfl, after⟩
    | bool b => cases b <;> simp [opening] at same
    | null | array | object => simp [opening] at same

/-- **Where a value ends.** No text begins with the written forms of two different values without
numbers. -/
theorem print_append_inj {j k : Json} (free : NumberFree j) (free' : NumberFree k)
    (eq : j.print ++ r = k.print ++ s) : j = k ∧ r = s :=
  endsItself_of_numberFree free k r s free' eq

end DeviceVerification.Json
