/-!
# Feeds

A feed holds what a receiver has not taken yet. A receiver that falls too far behind loses the
oldest items and learns how many it lost before it takes the next one.
-/

namespace DeviceVerification

/-- What a receiver has not taken yet, oldest first. -/
structure Feed (α : Type) where
  items : List α
  /-- How many items were lost since the last one was taken. -/
  lost : Nat
  deriving DecidableEq, Repr

namespace Feed

variable {α : Type}

/-- The number of messages that a feed of messages holds. -/
def messageCapacity : Nat := 256

/-- The number of verifications that a feed of new verifications holds. -/
def verificationCapacity : Nat := 64

/-- The feed of a receiver that has just begun. -/
def empty : Feed α := ⟨[], 0⟩

instance : Inhabited (Feed α) := ⟨empty⟩

/-- Adds an item to a feed with a capacity. -/
def push (capacity : Nat) (f : Feed α) (item : α) : Feed α :=
  if f.items.length < capacity then { f with items := f.items ++ [item] }
  else ⟨f.items.tail ++ [item], f.lost + 1⟩

/-- What a receiver gets. -/
inductive Received (α : Type) where
  | item (a : α)
  | lagged (lost : Nat)
  deriving DecidableEq, Repr

/-- What the receiver gets next, and the feed after that. -/
def take? (f : Feed α) : Option (Received α × Feed α) :=
  if f.lost = 0 then
    match f.items with
    | [] => none
    | a :: rest => some (.item a, { f with items := rest })
  else some (.lagged f.lost, { f with lost := 0 })

/-- The next item, whatever was lost before it, and the feed after that. -/
def next? (f : Feed α) : Option (α × Feed α) :=
  match f.items with
  | [] => none
  | a :: rest => some (a, ⟨rest, 0⟩)

end Feed

end DeviceVerification
