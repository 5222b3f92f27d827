import DeviceVerification.Json.Lexer
import DeviceVerification.Json.Value

/-!
# Reading JSON

A text is read in two stages. `Draft.read?` knows the grammar only: it keeps repeated keys, any
nesting and scalars without a value. `Draft.value?` then demands what a value needs: every scalar
has one, and at most `maxNesting` arrays and objects lie inside each other. Readers of records work
on the draft, because what they skip is held to the grammar alone.
-/

namespace DeviceVerification.Json

/-- A JSON text as the grammar reads it. -/
inductive Draft where
  | null
  | bool (b : Bool)
  | number (n : Option Number)
  | string (s : Option String)
  | array (items : List Draft)
  | object (members : List (Option String × Draft))
  deriving Inhabited

/-- The surroundings of the next value: what is complete of the arrays and objects around it, in
reverse order. -/
inductive Context where
  | top
  | item (items : List Draft) (outer : Context)
  | field (members : List (Option String × Draft)) (key : Option String) (outer : Context)

/-- What the parser expects next. -/
inductive Parser where
  | value (context : Context)
  | itemOrClose (outer : Context)
  | keyOrClose (outer : Context)
  | nextKey (members : List (Option String × Draft)) (outer : Context)
  | colon (members : List (Option String × Draft)) (key : Option String) (outer : Context)
  | afterItem (items : List Draft) (outer : Context)
  | afterField (members : List (Option String × Draft)) (outer : Context)
  | finished (result : Draft)

namespace Parser

/-- Puts a complete value into its surroundings. -/
def fill : Context → Draft → Parser
  | .top, d => .finished d
  | .item items outer, d => .afterItem (d :: items) outer
  | .field members key outer, d => .afterField ((key, d) :: members) outer

/-- Reads the first token of a value. -/
def stepValue (context : Context) : Token → Option Parser
  | .null => some (fill context .null)
  | .bool b => some (fill context (.bool b))
  | .number n => some (fill context (.number n))
  | .string s => some (fill context (.string s))
  | .openBracket => some (.itemOrClose context)
  | .openBrace => some (.keyOrClose context)
  | _ => none

/-- Reads one token. -/
def step : Parser → Token → Option Parser
  | .value context, t => stepValue context t
  | .itemOrClose outer, .closeBracket => some (fill outer (.array []))
  | .itemOrClose outer, t => stepValue (.item [] outer) t
  | .keyOrClose outer, .closeBrace => some (fill outer (.object []))
  | .keyOrClose outer, .string k => some (.colon [] k outer)
  | .nextKey members outer, .string k => some (.colon members k outer)
  | .colon members k outer, .colon => some (.value (.field members k outer))
  | .afterItem items outer, .comma => some (.value (.item items outer))
  | .afterItem items outer, .closeBracket => some (fill outer (.array items.reverse))
  | .afterField members outer, .comma => some (.nextKey members outer)
  | .afterField members outer, .closeBrace => some (fill outer (.object members.reverse))
  | _, _ => none

/-- The value that was read, if it is complete. -/
def result? : Parser → Option Draft
  | .finished d => some d
  | _ => none

end Parser

/-- At most this many arrays and objects may lie inside each other. -/
def maxNesting : Nat := 127

namespace Draft

/-- The draft that a text consists of. -/
def read? (text : String) : Option Draft := do
  let tokens ← tokens? text.toList
  let parser ← tokens.foldlM Parser.step (.value .top)
  parser.result?

mutual

/-- Whether every scalar has a value and at most `levels` arrays and objects lie inside each
other. -/
def isSound (levels : Nat) : Draft → Bool
  | .null => true
  | .bool _ => true
  | .number n => n.isSome
  | .string s => s.isSome
  | .array items => decide (0 < levels) && areSound (levels - 1) items
  | .object members => decide (0 < levels) && membersSound (levels - 1) members

/-- `isSound` for the items of an array. -/
def areSound (levels : Nat) : List Draft → Bool
  | [] => true
  | d :: rest => isSound levels d && areSound levels rest

/-- `isSound` for the members of an object. -/
def membersSound (levels : Nat) : List (Option String × Draft) → Bool
  | [] => true
  | (k, d) :: rest => k.isSome && isSound levels d && membersSound levels rest

end

mutual

/-- The value of a draft whose scalars have values; of repeated keys the last one counts. -/
def toJson : Draft → Json
  | .null => .null
  | .bool b => .bool b
  | .number n => .number (n.getD (.integer 0))
  | .string s => .string (s.getD "")
  | .array items => .array (toItems items)
  | .object members => .object (Dictionary.ofList (toMembers members)).entries

/-- `toJson` for the items of an array. -/
def toItems : List Draft → List Json
  | [] => []
  | d :: rest => toJson d :: toItems rest

/-- `toJson` for the members of an object. -/
def toMembers : List (Option String × Draft) → List (String × Json)
  | [] => []
  | (k, d) :: rest => (k.getD "", toJson d) :: toMembers rest

end

/-- The value of a draft, with the members of its objects in the order of their keys. -/
def value? (d : Draft) : Option Json := if d.isSound maxNesting then some d.toJson else none

mutual

/-- The draft of a value. -/
def ofJson : Json → Draft
  | .null => .null
  | .bool b => .bool b
  | .number n => .number (some n)
  | .string s => .string (some s)
  | .array items => .array (ofItems items)
  | .object members => .object (ofMembers members)

/-- `ofJson` for the items of an array. -/
def ofItems : List Json → List Draft
  | [] => []
  | j :: rest => ofJson j :: ofItems rest

/-- `ofJson` for the members of an object. -/
def ofMembers : List (String × Json) → List (Option String × Draft)
  | [] => []
  | (k, j) :: rest => (some k, ofJson j) :: ofMembers rest

end

end Draft

/-- The value that a text consists of. -/
def read? (text : String) : Option Json := (Draft.read? text).bind Draft.value?

end DeviceVerification.Json
