import DeviceVerification.Hex
import DeviceVerification.Json.Value

/-!
# Writing JSON

`Json.print` writes without blanks, `Json.pretty` with one member a line and two blanks for each
level. Both write a text with the short escapes where there are some, other control characters as
four hexadecimal digits, and everything else as it is.
-/

namespace DeviceVerification.Json

/-- The written form of a character inside a text. -/
def escape (c : Char) : List Char :=
  if c = '"' then ['\\', '"']
  else if c = '\\' then ['\\', '\\']
  else if c.toNat = 8 then ['\\', 'b']
  else if c.toNat = 9 then ['\\', 't']
  else if c.toNat = 10 then ['\\', 'n']
  else if c.toNat = 12 then ['\\', 'f']
  else if c.toNat = 13 then ['\\', 'r']
  else if c.toNat < 32 then
    ['\\', 'u', '0', '0', Hex.digit (c.toNat / 16), Hex.digit (c.toNat % 16)]
  else [c]

/-- The written form of a text, with its quotes. -/
def quote (s : String) : List Char := '"' :: (s.toList.flatMap escape ++ ['"'])

mutual

/-- The characters of a value, without blanks. -/
def print : Json → List Char
  | .null => ['n', 'u', 'l', 'l']
  | .bool true => ['t', 'r', 'u', 'e']
  | .bool false => ['f', 'a', 'l', 's', 'e']
  | .number n => n.write
  | .string s => quote s
  | .array [] => ['[', ']']
  | .array (j :: rest) => '[' :: (print j ++ printItems rest)
  | .object [] => ['{', '}']
  | .object ((k, j) :: rest) => '{' :: (quote k ++ ':' :: (print j ++ printMembers rest))

/-- The further items of an array and its end. -/
def printItems : List Json → List Char
  | [] => [']']
  | j :: rest => ',' :: (print j ++ printItems rest)

/-- The further members of an object and its end. -/
def printMembers : List (String × Json) → List Char
  | [] => ['}']
  | (k, j) :: rest => ',' :: (quote k ++ ':' :: (print j ++ printMembers rest))

end

/-- The text of a value without blanks. -/
def compact (j : Json) : String := String.ofList j.print

/-- The start of a line at a level. -/
def newline (level : Nat) : List Char := '\n' :: List.replicate (2 * level) ' '

mutual

/-- The characters of a value whose first line is at `level`. -/
def printPretty (level : Nat) : Json → List Char
  | .array (j :: rest) =>
    '[' :: (newline (level + 1) ++ printPretty (level + 1) j ++ prettyItems level rest)
  | .object ((k, j) :: rest) =>
    '{' :: (newline (level + 1) ++ quote k ++
      ':' :: ' ' :: (printPretty (level + 1) j ++ prettyMembers level rest))
  | .array [] => ['[', ']']
  | .object [] => ['{', '}']
  | .null => print .null
  | .bool b => print (.bool b)
  | .number n => print (.number n)
  | .string s => print (.string s)

/-- The further items of an array at `level` and its end. -/
def prettyItems (level : Nat) : List Json → List Char
  | [] => newline level ++ [']']
  | j :: rest =>
    ',' :: (newline (level + 1) ++ printPretty (level + 1) j ++ prettyItems level rest)

/-- The further members of an object at `level` and its end. -/
def prettyMembers (level : Nat) : List (String × Json) → List Char
  | [] => newline level ++ ['}']
  | (k, j) :: rest =>
    ',' :: (newline (level + 1) ++ quote k ++
      ':' :: ' ' :: (printPretty (level + 1) j ++ prettyMembers level rest))

end

/-- The text of a value with one member a line. -/
def pretty (j : Json) : String := String.ofList (j.printPretty 0)

end DeviceVerification.Json
