import DeviceVerification.Json.Reader

/-!
# Records in JSON

A record is written as an object or as an array of its fields in their order. In an object unknown
members are skipped and a repeated field is refused; an array may end early only before fields that
have a default.
-/

namespace DeviceVerification.Json

/-- What a record gives for one of its fields: a value, nothing in an object, or nothing because an
array ended before it. -/
inductive Slot where
  | given (d : Draft)
  | omitted
  | cut

namespace Slot

variable {α : Type}

/-- A field that must be given. -/
def required (read : Draft → Option α) : Slot → Option α
  | .given d => read d
  | _ => none

/-- A field with a default. -/
def orDefault (read : Draft → Option α) (default : α) : Slot → Option α
  | .given d => read d
  | _ => some default

/-- A field that may be null or left out of an object. -/
def optional (read : Draft → Option α) : Slot → Option (Option α)
  | .given .null => some none
  | .given d => (read d).map some
  | .omitted => some none
  | .cut => none

end Slot

/-- The fields of a record by name. -/
abbrev Record := List (String × Slot)

/-- What the record gives for a field. -/
def Record.field (r : Record) (name : String) : Slot :=
  (Dictionary.lookup name r).getD .cut

namespace Draft

variable {α : Type}

/-- The drafts of the members with a key. -/
def membersNamed (name : String) (members : List (Option String × Draft)) : List Draft :=
  (members.filter fun m => m.1 == some name).map (·.2)

/-- The slot of a field among members, unless the field is repeated. -/
def slot? (members : List (Option String × Draft)) (name : String) : Option (String × Slot) :=
  match membersNamed name members with
  | [] => some (name, .omitted)
  | [d] => some (name, .given d)
  | _ => none

/-- The fields of the items of an array, in their order. -/
def slotsInOrder : List String → List Draft → Record
  | [], _ => []
  | name :: names, [] => (name, .cut) :: slotsInOrder names []
  | name :: names, d :: rest => (name, .given d) :: slotsInOrder names rest

/-- The record with the given fields. -/
def record? (names : List String) : Draft → Option Record
  | .object members =>
    if members.all fun m => m.1.isSome then names.mapM (slot? members) else none
  | .array items => if items.length ≤ names.length then some (slotsInOrder names items) else none
  | _ => none

/-- A text. -/
def text? : Draft → Option String
  | .string s => s
  | _ => none

/-- A truth value. -/
def flag? : Draft → Option Bool
  | .bool b => some b
  | _ => none

/-- A natural number of 64 bits, written as an integer. -/
def word? : Draft → Option UInt64
  | .number (some (.integer n)) =>
    if 0 ≤ n ∧ n.toNat ≤ Number.maxInteger then some (UInt64.ofNat n.toNat) else none
  | _ => none

/-- A list. -/
def list? (read : Draft → Option α) : Draft → Option (List α)
  | .array items => items.mapM read
  | _ => none

/-- A member whose key and value can be read. -/
def member? (read : Draft → Option α) (m : Option String × Draft) : Option (String × α) :=
  match m.1, read m.2 with
  | some k, some v => some (k, v)
  | _, _ => none

/-- A dictionary; of repeated keys the last one counts. -/
def dictionary? (read : Draft → Option α) : Draft → Option (Dictionary α)
  | .object members => (members.mapM (member? read)).map Dictionary.ofList
  | _ => none

/-- A choice between named alternatives: an object whose only key is the name. -/
def tagged? : Draft → Option (String × Draft)
  | .object [(some name, d)] => some (name, d)
  | _ => none

/-- A choice between names: the name, or an object that gives it null. -/
def choice? : Draft → Option String
  | .string s => s
  | .object [(some name, .null)] => some name
  | _ => none

end Draft

end DeviceVerification.Json
