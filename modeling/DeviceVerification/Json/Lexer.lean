import DeviceVerification.Json.Number

/-!
# Tokens of a JSON text

The lexer reads one character at a time (`Lexer.step`), so it is one fold over the text. A text with
an unpaired surrogate and a number beyond the range of doubles are tokens of the grammar that have
no value: they carry `none`.
-/

namespace DeviceVerification.Json

/-- A token of a JSON text. -/
inductive Token where
  | openBrace
  | closeBrace
  | openBracket
  | closeBracket
  | colon
  | comma
  | null
  | bool (b : Bool)
  | number (n : Option Number)
  | string (s : Option String)
  deriving DecidableEq, Repr

/-- Where the reading of a quoted text stands. -/
inductive QuoteStage where
  | plain
  | escape
  | unicode (missing value : Nat)
  deriving DecidableEq, Repr

/-- A quoted text that is being read: its characters in reverse order, a high surrogate that waits
for its partner, and whether all surrogates had one so far. -/
structure QuoteReader where
  chars : List Char
  high : Option Nat
  paired : Bool
  stage : QuoteStage
  deriving DecidableEq, Repr

/-- What the lexer is in the middle of. -/
inductive Mode where
  | between
  | word (letters : List Char)
  | number (chars : List Char)
  | quoted (reader : QuoteReader)
  deriving DecidableEq, Repr

/-- The lexer after part of a text: the tokens read, in reverse order, and what is unfinished. -/
structure Lexer where
  tokens : List Token
  mode : Mode
  deriving DecidableEq, Repr

/-- The value of a hexadecimal digit. -/
def hexValue? (c : Char) : Option Nat :=
  if '0' ≤ c ∧ c ≤ '9' then some (c.toNat - 48)
  else if 'a' ≤ c ∧ c ≤ 'f' then some (c.toNat - 87)
  else if 'A' ≤ c ∧ c ≤ 'F' then some (c.toNat - 55)
  else none

namespace QuoteReader

/-- A quoted text of which only the opening quote is read. -/
def start : QuoteReader := ⟨[], none, true, .plain⟩

/-- Adds a character that is no surrogate. -/
def push (r : QuoteReader) (c : Char) : QuoteReader :=
  ⟨c :: r.chars, none, r.paired && r.high.isNone, .plain⟩

/-- Adds a UTF-16 unit. -/
def pushUnit (r : QuoteReader) (u : Nat) : QuoteReader :=
  match r.high with
  | some h =>
    if 0xDC00 ≤ u ∧ u ≤ 0xDFFF then
      ⟨Char.ofNat (0x10000 + (h - 0xD800) * 0x400 + (u - 0xDC00)) :: r.chars, none, r.paired,
        .plain⟩
    else ⟨r.chars, none, false, .plain⟩
  | none =>
    if 0xD800 ≤ u ∧ u ≤ 0xDBFF then ⟨r.chars, some u, r.paired, .plain⟩
    else if 0xDC00 ≤ u ∧ u ≤ 0xDFFF then ⟨r.chars, none, false, .plain⟩
    else r.push (Char.ofNat u)

/-- The character that a short escape stands for. -/
def unescape? (c : Char) : Option Char :=
  if c = '"' ∨ c = '\\' ∨ c = '/' then some c
  else if c = 'b' then some (Char.ofNat 8)
  else if c = 'f' then some (Char.ofNat 12)
  else if c = 'n' then some '\n'
  else if c = 'r' then some '\r'
  else if c = 't' then some '\t'
  else none

/-- The text that was read, unless it has an unpaired surrogate. -/
def text? (r : QuoteReader) : Option String :=
  if r.paired && r.high.isNone then some (String.ofList r.chars.reverse) else none

/-- Reads one character that does not end the text. -/
def step (r : QuoteReader) (c : Char) : Option QuoteReader :=
  match r.stage with
  | .plain =>
    if c = '\\' then some { r with stage := .escape }
    else if c.toNat < 32 then none
    else some (r.push c)
  | .escape =>
    if c = 'u' then some { r with stage := .unicode 3 0 }
    else (unescape? c).map r.push
  | .unicode missing value =>
    (hexValue? c).map fun d =>
      match missing with
      | 0 => r.pushUnit (value * 16 + d)
      | n + 1 => { r with stage := .unicode n (value * 16 + d) }

/-- Whether a quote ends the text here. -/
def ends (r : QuoteReader) (c : Char) : Bool := r.stage = .plain && c = '"'

end QuoteReader

namespace Lexer

/-- The lexer before a text. -/
def start : Lexer := ⟨[], .between⟩

/-- Whether a character belongs to a word such as `true`. -/
def isWordChar (c : Char) : Bool := 'a' ≤ c && c ≤ 'z'

/-- Whether a character belongs to a number. -/
def isNumberChar (c : Char) : Bool :=
  ('0' ≤ c && c ≤ '9') || c = '-' || c = '+' || c = '.' || c = 'e' || c = 'E'

/-- Reads a character between two tokens. -/
def stepBetween (tokens : List Token) (c : Char) : Option Lexer :=
  if c = ' ' ∨ c = '\n' ∨ c = '\t' ∨ c = '\r' then some ⟨tokens, .between⟩
  else if c = '{' then some ⟨.openBrace :: tokens, .between⟩
  else if c = '}' then some ⟨.closeBrace :: tokens, .between⟩
  else if c = '[' then some ⟨.openBracket :: tokens, .between⟩
  else if c = ']' then some ⟨.closeBracket :: tokens, .between⟩
  else if c = ':' then some ⟨.colon :: tokens, .between⟩
  else if c = ',' then some ⟨.comma :: tokens, .between⟩
  else if c = '"' then some ⟨tokens, .quoted .start⟩
  else if c = '-' ∨ ('0' ≤ c ∧ c ≤ '9') then some ⟨tokens, .number [c]⟩
  else if isWordChar c then some ⟨tokens, .word [c]⟩
  else none

/-- The token that a word stands for. -/
def word? (letters : List Char) : Option Token :=
  if letters = ['t', 'r', 'u', 'e'] then some (.bool true)
  else if letters = ['f', 'a', 'l', 's', 'e'] then some (.bool false)
  else if letters = ['n', 'u', 'l', 'l'] then some .null
  else none

/-- The token that a number stands for. -/
def number? (chars : List Char) : Option Token :=
  (Number.literal? chars).map fun l => .number l.value?

/-- The tokens read so far, if the text may end here. -/
def finish? (l : Lexer) : Option (List Token) :=
  match l.mode with
  | .between => some l.tokens
  | .word letters => (word? letters.reverse).map (· :: l.tokens)
  | .number chars => (number? chars.reverse).map (· :: l.tokens)
  | .quoted _ => none

/-- Reads one character. A character that cannot continue a word or a number ends it. -/
def step (l : Lexer) (c : Char) : Option Lexer :=
  match l.mode with
  | .between => stepBetween l.tokens c
  | .word letters =>
    if isWordChar c then some ⟨l.tokens, .word (c :: letters)⟩
    else l.finish?.bind fun tokens => stepBetween tokens c
  | .number chars =>
    if isNumberChar c then some ⟨l.tokens, .number (c :: chars)⟩
    else l.finish?.bind fun tokens => stepBetween tokens c
  | .quoted reader =>
    if reader.ends c then some ⟨.string reader.text? :: l.tokens, .between⟩
    else (reader.step c).map fun r => ⟨l.tokens, .quoted r⟩

end Lexer

/-- The tokens of a text. -/
def tokens? (text : List Char) : Option (List Token) :=
  ((text.foldlM Lexer.step Lexer.start).bind Lexer.finish?).map List.reverse

end DeviceVerification.Json
