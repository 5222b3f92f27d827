import DeviceVerification.Proofs.Json.ReadBack

/-!
# One member a line

A value that is written with one member a line has the same tokens as without blanks
(`Plain.lexes_pretty`): what the layout adds, the start of a line and the blank after a colon,
stands between two tokens, where the lexer goes past it. So this form is read as its value too
(`Draft.read?_pretty`).
-/

namespace DeviceVerification.Json

variable {l : Lexer} {before : List Token} {level : Nat}

/-! ## Blanks -/

theorem foldlM_blanks (before : List Token) (n : Nat) :
    (List.replicate n ' ').foldlM Lexer.step ⟨before, .between⟩ = some ⟨before, .between⟩ := by
  induction n with
  | zero => rfl
  | succ n ih =>
    rw [List.replicate_succ, List.foldlM_cons]
    exact ih

/-- The start of a line ends the last token and adds none. -/
theorem foldlM_newline (rests : l.finish? = some before) (level : Nat) :
    (newline level).foldlM Lexer.step l = some ⟨before, .between⟩ := by
  rw [newline, List.foldlM_cons, step_delimiter rests (by decide)]
  exact foldlM_blanks before (2 * level)

theorem Lexes.newline {text : List Char} {found : List Token} (h : Lexes text found) (level : Nat) :
    Lexes (newline level ++ text) found := by
  intro before
  rw [List.foldlM_append, foldlM_newline rfl]
  exact h before

theorem Lexes.blank {text : List Char} {found : List Token} (h : Lexes text found) :
    Lexes (' ' :: text) found :=
  h

/-! ## Values -/

theorem foldlM_prettyItems {items : List Json}
    (h : ∀ j ∈ items, Lexes (j.printPretty (level + 1)) (tokens j))
    (rests : l.finish? = some before) :
    (prettyItems level items).foldlM Lexer.step l =
      some ⟨(itemTokens items).reverse ++ before, .between⟩ := by
  induction items generalizing l before with
  | nil =>
    rw [prettyItems, List.foldlM_append, foldlM_newline rests]
    rfl
  | cons j rest ih =>
    have first := (h j List.mem_cons_self).newline (level + 1)
    rw [prettyItems, List.foldlM_cons, step_delimiter rests (by decide)]
    show (newline (level + 1) ++ j.printPretty (level + 1) ++ prettyItems level rest).foldlM
      Lexer.step ⟨.comma :: before, .between⟩ = _
    refine first.foldlM_append fun l' rests' => ?_
    rw [ih (fun i mem => h i (List.mem_cons_of_mem _ mem)) rests']
    simp [itemTokens]

/-- A member on a line of its own. -/
theorem foldlM_prettyMember {k : String} {j : Json} {tail : List Char} {after : Lexer}
    (h : Lexes (j.printPretty (level + 1)) (tokens j))
    (rest : ∀ l : Lexer,
      l.finish? = some ((tokens j).reverse ++ .colon :: .string (some k) :: before) →
        tail.foldlM Lexer.step l = some after) :
    (newline (level + 1) ++ quote k ++ ':' :: ' ' :: (j.printPretty (level + 1) ++ tail)).foldlM
      Lexer.step ⟨before, .between⟩ = some after := by
  rw [List.append_assoc, List.foldlM_append, foldlM_newline rfl]
  exact foldlM_printMember h.blank rest

theorem foldlM_prettyMembers {members : List (String × Json)}
    (h : ∀ m ∈ members, Lexes (m.2.printPretty (level + 1)) (tokens m.2))
    (rests : l.finish? = some before) :
    (prettyMembers level members).foldlM Lexer.step l =
      some ⟨(memberTokens members).reverse ++ before, .between⟩ := by
  induction members generalizing l before with
  | nil =>
    rw [prettyMembers, List.foldlM_append, foldlM_newline rests]
    rfl
  | cons m rest ih =>
    obtain ⟨k, j⟩ := m
    rw [prettyMembers, List.foldlM_cons, step_delimiter rests (by decide)]
    show (newline (level + 1) ++ quote k ++ ':' :: ' ' ::
      (j.printPretty (level + 1) ++ prettyMembers level rest)).foldlM
        Lexer.step ⟨.comma :: before, .between⟩ = _
    refine foldlM_prettyMember (h _ List.mem_cons_self) fun l' rests' => ?_
    rw [ih (fun i mem => h i (List.mem_cons_of_mem _ mem)) rests']
    simp [memberTokens]

/-- The form with one member a line has the tokens of the value. -/
theorem Plain.lexes_pretty {levels : Nat} {j : Json} (h : Plain levels j) (level : Nat) :
    Lexes (j.printPretty level) (tokens j) := by
  induction h generalizing level with
  | null levels =>
    rw [printPretty]
    exact (Plain.null levels).lexes
  | bool levels b =>
    rw [printPretty]
    exact (Plain.bool levels b).lexes
  | integer levels h =>
    rw [printPretty]
    exact (Plain.integer levels h).lexes
  | string levels s =>
    rw [printPretty]
    exact (Plain.string levels s).lexes
  | @array _ items _ ih =>
    intro before
    cases items with
    | nil => exact ⟨_, rfl, rfl⟩
    | cons j rest =>
      have first := (ih j List.mem_cons_self (level + 1)).newline (level + 1)
      refine ⟨⟨(tokens (.array (j :: rest))).reverse ++ before, .between⟩, ?_, rfl⟩
      rw [printPretty, List.foldlM_cons]
      show (newline (level + 1) ++ j.printPretty (level + 1) ++ prettyItems level rest).foldlM
        Lexer.step ⟨.openBracket :: before, .between⟩ = _
      refine first.foldlM_append fun l rests => ?_
      rw [foldlM_prettyItems (fun i mem => ih i (List.mem_cons_of_mem _ mem) _) rests]
      simp [tokens]
  | @object _ members _ _ ih =>
    intro before
    cases members with
    | nil => exact ⟨_, rfl, rfl⟩
    | cons m rest =>
      obtain ⟨k, j⟩ := m
      refine ⟨⟨(tokens (.object ((k, j) :: rest))).reverse ++ before, .between⟩, ?_, rfl⟩
      rw [printPretty, List.foldlM_cons]
      show (newline (level + 1) ++ quote k ++ ':' :: ' ' ::
        (j.printPretty (level + 1) ++ prettyMembers level rest)).foldlM
          Lexer.step ⟨.openBrace :: before, .between⟩ = _
      refine foldlM_prettyMember (ih _ List.mem_cons_self _) fun l rests => ?_
      rw [foldlM_prettyMembers (fun i mem => ih i (List.mem_cons_of_mem _ mem) _) rests]
      simp [tokens]

/-- The text of a value with one member a line is read as this value. -/
theorem Draft.read?_pretty {levels : Nat} {j : Json} (h : Plain levels j) :
    Draft.read? j.pretty = some (.ofJson j) :=
  h.read?_eq (h.lexes_pretty 0)

end DeviceVerification.Json
