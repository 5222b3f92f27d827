import DeviceVerification.Network.Basic

/-!
# Interceptors in writing

A network takes any function as its interceptor. Where one has to be written down, it is a list of
rules, of which the first that matches a message decides: the message is dropped, or its content and
its envelope are changed. Changes of a content are merge patches.
-/

namespace DeviceVerification

open Json (Draft)

namespace Json

mutual

/-- `target` with a merge patch applied: objects merge, null removes, all else replaces. -/
def patch (target : Json) : Json → Json
  | .object changes => .object (patchMembers target.members changes)
  | .null => .null
  | .bool b => .bool b
  | .number n => .number n
  | .string s => .string s
  | .array items => .array items

/-- `patch` for the members of an object. -/
def patchMembers (target : List (String × Json)) : List (String × Json) → List (String × Json)
  | [] => target
  | (k, .null) :: rest => patchMembers (target.filter fun m => m.1 ≠ k) rest
  | (k, change) :: rest =>
    patchMembers (setMember k (patch ((member? k target).getD .null) change) target) rest

end

end Json

/-- A step with a merge patch applied to its content, if that is still a step. -/
def Step.patch? (s : Step) (change : Json) : Option Step :=
  let content := (s.contentJson?.getD .null).patch change
  Step.ofContent? s.kind (.ofJson content)

/-- A body with a merge patch applied, if that is still one: to the content of a step, or to a
request as a whole, which the patch may turn into a step. -/
def DirectBody.patch? (b : DirectBody) (change : Json) : Option DirectBody :=
  match b with
  | .step s => (s.patch? change).map .step
  | .request content =>
    DirectBody.ofDraft? Json.maxNesting (.ofJson (content.toJson.patch change))

/-- A rule for direct messages; what is left out matches everything and changes nothing. -/
structure Rule where
  sender : Option String
  /-- The short name of what the message says. -/
  body : Option String
  drops : Bool
  patch : Option Json
  setSender : Option String
  setDevice : Option String
  setTransaction : Option String

namespace Rule

/-- Whether a rule is about a message. -/
def applies (r : Rule) (m : ReceivedDirect) : Bool :=
  r.sender.all (fun s => m.sender == s) && r.body.all fun b => m.message.body.name == b

/-- The message after the changes of a rule. -/
def tamper (r : Rule) (m : ReceivedDirect) : ReceivedDirect :=
  let body := (r.patch.bind m.message.body.patch?).getD m.message.body
  { sender := r.setSender.getD m.sender
    senderDevice := r.setDevice.getD m.senderDevice
    message := ⟨r.setTransaction.getD m.message.transactionId, body⟩ }

/-- The interceptor that a list of rules writes down. -/
def intercept (rules : List Rule) : Interceptor := fun m =>
  match rules.find? fun r => r.applies m with
  | none => some m
  | some r => if r.drops then none else some (r.tamper m)

instance : Coe (List Rule) Interceptor := ⟨intercept⟩

end Rule

end DeviceVerification
