import DeviceVerification.Dictionary
import DeviceVerification.Json.Number

/-!
# JSON values

A `Json` keeps the members of an object in the order in which they are to be written.
`Json.canonical` orders them by their keys and lets the last of repeated keys count.
-/

namespace DeviceVerification

/-- A JSON value. -/
inductive Json where
  | null
  | bool (b : Bool)
  | number (n : Number)
  | string (s : String)
  | array (items : List Json)
  | object (members : List (String × Json))
  deriving Inhabited

namespace Json

/-- The number `n`. -/
def nat (n : Nat) : Json := .number (.integer n)

/-- An array of texts. -/
def strings (l : List String) : Json := .array (l.map .string)

mutual

/-- The value with the members of all its objects in the order of their keys. -/
def canonical : Json → Json
  | .null => .null
  | .bool b => .bool b
  | .number n => .number n
  | .string s => .string s
  | .array items => .array (canonicalItems items)
  | .object members => .object (Dictionary.ofList (canonicalMembers members)).entries

/-- `canonical` for the items of an array. -/
def canonicalItems : List Json → List Json
  | [] => []
  | j :: rest => canonical j :: canonicalItems rest

/-- `canonical` for the members of an object. -/
def canonicalMembers : List (String × Json) → List (String × Json)
  | [] => []
  | (k, j) :: rest => (k, canonical j) :: canonicalMembers rest

end

/-- The members with one of them set, in the place of the one with its key or at the end. -/
def setMember (key : String) (value : Json) : List (String × Json) → List (String × Json)
  | [] => [(key, value)]
  | (k, v) :: rest =>
    if k = key then (key, value) :: rest else (k, v) :: setMember key value rest

/-- The value of a key among members. -/
def member? (key : String) : List (String × Json) → Option Json := Dictionary.lookup key

/-- The value of a key of an object. -/
def get? (key : String) : Json → Option Json
  | .object members => member? key members
  | _ => none

/-- Sets a member of an object; other values stay as they are. -/
def set (j : Json) (key : String) (value : Json) : Json :=
  match j with
  | .object members => .object (setMember key value members)
  | j => j

/-- The members of an object; other values have none. -/
def members : Json → List (String × Json)
  | .object members => members
  | _ => []

end Json

end DeviceVerification
