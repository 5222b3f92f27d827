import DeviceVerification.Proofs.Json.Arrangement
import DeviceVerification.Protocol.Message

/-!
# The way over the wire

Requests, steps, transactions and the messages that carry them are read back as what they were
written for, whether their text has the fields in their order or is canonical
(`wire_round_trip`). The canonical form of a step has its content before its type, so it is read as
a whole before its kind is known, which takes some levels of nesting. A body without a name of its
own is a step or a request: no text of the one is read as the other.
-/

namespace DeviceVerification

open Json (Arrangement Draft Plain)
open Json.Draft (ofJson)

variable (r : Arrangement)

/-! ## Fields -/

@[simp] theorem word?_arranged (n : UInt64) :
    (ofJson (r.apply (.nat n.toNat))).word? = some n := by
  obtain ⟨low, high⟩ := Number.inRange_toNat n
  have held : 0 ≤ (n.toNat : Int) ∧ (n.toNat : Int).toNat ≤ Number.maxInteger := by omega
  rw [Json.nat, r.number, ofJson, Draft.word?, if_pos held, Int.toNat_natCast, UInt64.ofNat_toNat]

theorem plain_nat (levels : Nat) (n : UInt64) : Plain levels (.nat n.toNat) :=
  .integer levels (Number.inRange_toNat n)

namespace Identifier

variable {v : Vocabulary}

@[simp] theorem ofDraft?_arranged (i : Identifier v) :
    ofDraft? (ofJson (r.apply i.toJson)) = some i := by
  rw [ofDraft?, toJson, r.text?]
  rfl

@[simp] theorem listOfDraft?_arranged (l : List (Identifier v)) :
    listOfDraft? (ofJson (r.apply (listToJson l))) = some l := by
  have items : (l.map fun i => ofJson (r.apply i.toJson)).mapM ofDraft? = some (l.map id) :=
    Draft.mapM_map_eq_some fun i _ => ofDraft?_arranged r i
  rw [listToJson, r.array, ofJson, Json.ofItems_eq_map, List.map_map, List.map_map]
  rw [List.map_id] at items
  exact items

theorem plain_toJson (levels : Nat) (i : Identifier v) : Plain levels i.toJson :=
  .string levels i.name

theorem plain_listToJson (levels : Nat) (l : List (Identifier v)) :
    Plain (levels + 1) (listToJson l) := by
  refine .array fun j mem => ?_
  obtain ⟨i, -, rfl⟩ := List.mem_map.1 mem
  exact i.plain_toJson levels

end Identifier

/-! ## Contents -/

namespace RequestContent

theorem ofDraft?_arranged (c : RequestContent) : ofDraft? (ofJson (r.apply c.toJson)) = some c := by
  have record := r.record? c.toJson.members (by simp [toJson, Json.members])
  simp only [toJson, Json.members, List.map_cons, List.map_nil] at record
  simp [ofDraft?, toJson, record, Json.Slot.required]

theorem plain_toJson (c : RequestContent) : Plain 2 c.toJson :=
  .object (by simp) (by simp [Plain.string, Identifier.plain_listToJson, plain_nat])

end RequestContent

namespace ReadyContent

theorem ofDraft?_arranged (c : ReadyContent) : ofDraft? (ofJson (r.apply c.toJson)) = some c := by
  have record := r.record? c.toJson.members (by simp [toJson, Json.members])
  simp only [toJson, Json.members, List.map_cons, List.map_nil] at record
  simp [ofDraft?, toJson, record, Json.Slot.required]

theorem plain_toJson (c : ReadyContent) : Plain 2 c.toJson :=
  .object (by simp) (by simp [Plain.string, Identifier.plain_listToJson])

end ReadyContent

namespace StartContent

theorem ofDraft?_arranged (c : StartContent) : ofDraft? (ofJson (r.apply c.toJson)) = some c := by
  have record := r.record? c.toJson.members (by simp [toJson, Json.members])
  simp only [toJson, Json.members, List.map_cons, List.map_nil] at record
  simp [ofDraft?, toJson, record, Json.Slot.required, Json.Slot.orDefault]

theorem plain_toJson (c : StartContent) : Plain 2 c.toJson :=
  .object (by simp)
    (by simp [Plain.string, Identifier.plain_toJson, Identifier.plain_listToJson])

end StartContent

namespace AcceptContent

theorem ofDraft?_arranged (c : AcceptContent) : ofDraft? (ofJson (r.apply c.toJson)) = some c := by
  have record := r.record? c.toJson.members (by simp [toJson, Json.members])
  simp only [toJson, Json.members, List.map_cons, List.map_nil] at record
  simp [ofDraft?, toJson, record, Json.Slot.required]

theorem plain_toJson (c : AcceptContent) : Plain 2 c.toJson :=
  .object (by simp)
    (by simp [Plain.string, Identifier.plain_toJson, Identifier.plain_listToJson])

end AcceptContent

namespace KeyContent

theorem ofDraft?_arranged (c : KeyContent) : ofDraft? (ofJson (r.apply c.toJson)) = some c := by
  have record := r.record? c.toJson.members (by simp [toJson, Json.members])
  simp only [toJson, Json.members, List.map_cons, List.map_nil] at record
  simp [ofDraft?, toJson, record, Json.Slot.required]

theorem plain_toJson (c : KeyContent) : Plain 2 c.toJson :=
  .object (by simp) (by simp [Plain.string])

end KeyContent

namespace MacContent

theorem ofDraft?_arranged (c : MacContent) : ofDraft? (ofJson (r.apply c.toJson)) = some c := by
  have record := r.record? c.toJson.members (by simp [toJson, Json.members])
  simp only [toJson, Json.members, List.map_cons, List.map_nil] at record
  simp [ofDraft?, toJson, record, Json.Slot.required, r.dictionary? r.text?]

theorem plain_toJson (c : MacContent) : Plain 2 c.toJson :=
  .object (by simp) (by simp [Plain.string, Plain.dictionary (Plain.string 0)])

end MacContent

namespace CancelContent

theorem ofDraft?_arranged (c : CancelContent) : ofDraft? (ofJson (r.apply c.toJson)) = some c := by
  have record := r.record? c.toJson.members (by simp [toJson, Json.members])
  simp only [toJson, Json.members, List.map_cons, List.map_nil] at record
  simp [ofDraft?, toJson, record, Json.Slot.required]

theorem plain_toJson (c : CancelContent) : Plain 2 c.toJson :=
  .object (by simp) (by simp [Plain.string, Identifier.plain_toJson])

end CancelContent

/-! ## Steps -/

namespace Step

variable {levels : Nat}

theorem ofContent?_arranged {s : Step} {c : Json} (has : s.contentJson? = some c) :
    ofContent? s.kind (ofJson (r.apply c)) = some s := by
  cases s with
  | done => cases has
  | ready content =>
    cases has
    simp [kind, ofContent?, ReadyContent.ofDraft?_arranged]
  | start content =>
    cases has
    simp [kind, ofContent?, StartContent.ofDraft?_arranged]
  | accept content =>
    cases has
    simp [kind, ofContent?, AcceptContent.ofDraft?_arranged]
  | key content =>
    cases has
    simp [kind, ofContent?, KeyContent.ofDraft?_arranged]
  | mac content =>
    cases has
    simp [kind, ofContent?, MacContent.ofDraft?_arranged]
  | cancel content =>
    cases has
    simp [kind, ofContent?, CancelContent.ofDraft?_arranged]

theorem plain_content {s : Step} {c : Json} (has : s.contentJson? = some c) : Plain 2 c := by
  cases s with
  | done => cases has
  | ready content => exact Option.some.inj has ▸ content.plain_toJson
  | start content => exact Option.some.inj has ▸ content.plain_toJson
  | accept content => exact Option.some.inj has ▸ content.plain_toJson
  | key content => exact Option.some.inj has ▸ content.plain_toJson
  | mac content => exact Option.some.inj has ▸ content.plain_toJson
  | cancel content => exact Option.some.inj has ▸ content.plain_toJson

theorem plain_toJson (s : Step) : Plain 3 s.toJson := by
  cases has : s.contentJson? with
  | none => exact .object (by simp [has]) (by simp [has, Plain.string])
  | some c => exact .object (by simp [has]) (by simp [has, Plain.string, plain_content has])

theorem kindOfDraft?_wireType (k : StepKind) :
    kindOfDraft? (.string (some k.wireType)) = some k := by
  cases k <;> decide

/-- A list of two items has them in one order or in the other. -/
theorem eq_or_eq_of_perm_pair {α : Type} {a b : α} {l : List α} (perm : l.Perm [a, b]) :
    l = [a, b] ∨ l = [b, a] := by
  match l, perm.length_eq with
  | [x, y], _ =>
    rcases List.mem_cons.1 (perm.mem_iff.1 List.mem_cons_self) with rfl | other
    · exact .inl (congrArg _ (List.perm_singleton.1 ((List.perm_cons x).1 perm)))
    · obtain rfl := List.mem_singleton.1 other
      have rest := (List.perm_cons x).1 (perm.trans (.swap _ _ _))
      exact .inr (congrArg _ (List.perm_singleton.1 rest))

/-- Nothing but the last step is written without content. -/
theorem eq_done_of_content {s : Step} (none : s.contentJson? = none) : s = .done := by
  cases s <;> first | rfl | cases none

/-- A step is an object in every arrangement. -/
theorem exists_ofJson (s : Step) : ∃ drafts, ofJson (r.apply s.toJson) = .object drafts ∧
    drafts.Perm (s.toJson.members.map fun m => (some m.1, ofJson (r.apply m.2))) := by
  refine r.exists_ofJson s.toJson.members ?_
  cases has : s.contentJson? <;> simp [toJson, Json.members, has]

/-- A step is read with its content before its type or behind it. -/
theorem ofDraft?_arranged (s : Step) (deep : 3 ≤ levels) :
    ofDraft? levels (ofJson (r.apply s.toJson)) = some s := by
  cases has : s.contentJson? with
  | none =>
    obtain rfl := eq_done_of_content has
    have members : toJson .done = .object [("type", .string StepKind.done.wireType)] := rfl
    rw [members, r.object_singleton, r.string]
    simp [ofDraft?, ofMembers?, ofJson, Draft.ofMembers, kindOfDraft?_wireType, ofNoContent?]
  | some c =>
    have members : s.toJson = .object [("type", .string s.kind.wireType), ("content", c)] := by
      simp [toJson, has]
    have content := ofContent?_arranged r has
    have sound : (ofJson (r.apply c)).isSound (levels - 1) = true :=
      ((r.plain (plain_content has)).mono (by omega)).isSound
    obtain ⟨drafts, same, perm⟩ := s.exists_ofJson r
    rw [same]
    rw [members] at perm
    rcases eq_or_eq_of_perm_pair perm with rfl | rfl <;>
      simp [ofDraft?, ofMembers?, r.string, ofJson, kindOfDraft?_wireType, content, sound]

/-- A step has no device where a request has its own. -/
theorem request_ofDraft?_arranged (s : Step) :
    RequestContent.ofDraft? (ofJson (r.apply s.toJson)) = none := by
  obtain ⟨drafts, same, perm⟩ := s.exists_ofJson r
  rw [same, RequestContent.ofDraft?, Draft.record?_perm perm]
  cases has : s.contentJson? <;>
    simp [toJson, Json.members, has, Draft.record?, Draft.slot?, Draft.membersNamed,
      Json.Slot.required]

end Step

/-! ## Messages -/

namespace RequestContent

/-- A request has no type. -/
theorem step_ofDraft?_arranged (c : RequestContent) (levels : Nat) :
    DirectBody.stepOfDraft? levels (ofJson (r.apply c.toJson)) = none := by
  obtain ⟨drafts, same, perm⟩ := r.exists_ofJson c.toJson.members (by simp [toJson, Json.members])
  have irrelevant : drafts.filter (fun m => m.1 == some "type" || m.1 == some "content") = [] := by
    refine List.perm_nil.1 ((perm.filter _).trans ?_)
    simp [toJson, Json.members]
  have object : c.toJson = .object c.toJson.members := rfl
  rw [object, same]
  simp [DirectBody.stepOfDraft?, Step.ofDraft?, Step.ofMembers?, irrelevant]

end RequestContent

namespace Transaction

theorem ofDraft?_arranged (t : Transaction) : ofDraft? (ofJson (r.apply t.toJson)) = some t := by
  cases t <;>
    simp [ofDraft?, toJson, r.object_singleton, ofJson, Draft.ofMembers, Draft.tagged?]

theorem plain_toJson (t : Transaction) : Plain 1 t.toJson := by
  cases t <;> exact .object (by simp) (by simp [Plain.string])

end Transaction

namespace DirectBody

variable {levels : Nat}

theorem plain_toJson (b : DirectBody) : Plain 3 b.toJson := by
  cases b with
  | step s => exact s.plain_toJson
  | request c => exact c.plain_toJson.mono (by decide)

theorem ofDraft?_arranged (b : DirectBody) (deep : 3 ≤ levels) :
    ofDraft? levels (ofJson (r.apply b.toJson)) = some b := by
  have sound := ((r.plain b.plain_toJson).mono deep).isSound
  cases b with
  | step s =>
    have read : stepOfDraft? levels (ofJson (r.apply s.toJson)) = some s := by
      obtain ⟨drafts, same, -⟩ := s.exists_ofJson r
      have step := s.ofDraft?_arranged r deep
      rw [same] at step ⊢
      exact step
    rw [ofDraft?, if_pos sound]
    simp [toJson, read]
  | request c =>
    rw [ofDraft?, if_pos sound]
    simp [toJson, c.step_ofDraft?_arranged r, c.ofDraft?_arranged r]

end DirectBody

namespace DirectMessage

variable {levels : Nat}

theorem ofDraft?_arranged (m : DirectMessage) (deep : 4 ≤ levels) :
    ofDraft? levels (ofJson (r.apply m.toJson)) = some m := by
  have record := r.record? m.toJson.members (by simp [toJson, Json.members])
  have body : DirectBody.ofDraft? (levels - 1) (ofJson (r.apply m.body.toJson)) = some m.body :=
    m.body.ofDraft?_arranged r (by omega)
  simp only [toJson, Json.members, List.map_cons, List.map_nil] at record
  simp [ofDraft?, toJson, record, Json.Slot.required, body]

theorem plain_toJson (m : DirectMessage) : Plain 4 m.toJson :=
  .object (by simp) (by simp [Plain.string, m.body.plain_toJson])

end DirectMessage

namespace ConversationMessage

variable {levels : Nat}

/-- A message in a conversation is an object in every arrangement. -/
theorem exists_ofJson (m : ConversationMessage) :
    ∃ drafts, ofJson (r.apply m.toJson) = .object drafts := by
  cases m <;> exact ⟨_, by rw [toJson, r.object_singleton, ofJson]⟩

theorem ofDraft?_arranged (m : ConversationMessage) (deep : 5 ≤ levels) :
    ofDraft? levels (ofJson (r.apply m.toJson)) = some m := by
  cases m with
  | request user content =>
    have record := r.record? [("to", .string user), ("content", content.toJson)] (by simp)
    simp only [List.map_cons, List.map_nil] at record
    simp [ofDraft?, toJson, r.object_singleton, ofJson, Draft.ofMembers, Draft.tagged?,
      requestOfDraft?, record, Json.Slot.required, content.ofDraft?_arranged r]
  | step relatesTo s =>
    have record := r.record? [("relates_to", .string relatesTo), ("step", s.toJson)] (by simp)
    have step : Step.ofDraft? (levels - 1 - 1) (ofJson (r.apply s.toJson)) = some s :=
      s.ofDraft?_arranged r (by omega)
    simp only [List.map_cons, List.map_nil] at record
    simp [ofDraft?, toJson, r.object_singleton, ofJson, Draft.ofMembers, Draft.tagged?,
      stepOfDraft?, record, Json.Slot.required, step]

theorem plain_toJson (m : ConversationMessage) : Plain 5 m.toJson := by
  cases m with
  | request user content =>
    have inner : Plain 4 (.object [("to", .string user), ("content", content.toJson)]) :=
      .object (by simp) (by simp [Plain.string, content.plain_toJson.mono])
    exact .object (by simp) (by simpa using inner)
  | step relatesTo s =>
    have inner : Plain 4 (.object [("relates_to", .string relatesTo), ("step", s.toJson)]) :=
      .object (by simp) (by simp [Plain.string, s.plain_toJson])
    exact .object (by simp) (by simpa using inner)

end ConversationMessage

namespace RoomEvent

variable {levels : Nat}

theorem ofDraft?_arranged (e : RoomEvent) (deep : 6 ≤ levels) :
    ofDraft? levels (ofJson (r.apply e.toJson)) = some e := by
  have record := r.record? e.toJson.members (by simp [toJson, Json.members])
  have message :
      (Json.Slot.given (ofJson (r.apply ((e.message.map (·.toJson)).getD .null)))).optional
        (ConversationMessage.ofDraft? (levels - 1)) = some e.message := by
    cases e.message with
    | none =>
      rw [Option.map_none, Option.getD_none, r.null]
      rfl
    | some m =>
      have read : ConversationMessage.ofDraft? (levels - 1) (ofJson (r.apply m.toJson)) = some m :=
        m.ofDraft?_arranged r (by omega)
      obtain ⟨drafts, same⟩ := m.exists_ofJson r
      rw [Option.map_some, Option.getD_some]
      rw [same] at read ⊢
      simp [Json.Slot.optional, read]
  simp only [toJson, Json.members, List.map_cons, List.map_nil] at record
  simp [ofDraft?, toJson, record, Json.Slot.required, message]

theorem plain_toJson (e : RoomEvent) : Plain 6 e.toJson := by
  have message : Plain 5 ((e.message.map (·.toJson)).getD .null) := by
    cases e.message with
    | none => exact .null 5
    | some m => exact m.plain_toJson
  exact .object (by simp) (by simp [Plain.string, plain_nat, message])

end RoomEvent

/-! ## Texts -/

/-- A reader gets from the text of a value, and from its canonical text, what the text was written
for. -/
def RoundTrips {α : Type} (read : Draft → Option α) (write : α → Json) : Prop :=
  ∀ a, (Draft.read? (write a).compact).bind read = some a ∧
    (Draft.read? (write a).canonical.compact).bind read = some a

/-- A reader that minds no arrangement gets the same from the text and from the canonical text. -/
theorem read_of_arranged {α : Type} {read : Draft → Option α} {result : Option α} {levels : Nat}
    {j : Json} (plain : Plain levels j)
    (reads : ∀ r : Arrangement, read (ofJson (r.apply j)) = result) :
    (Draft.read? j.compact).bind read = result ∧
      (Draft.read? j.canonical.compact).bind read = result := by
  have arranged (r : Arrangement) : (Draft.read? (r.apply j).compact).bind read = result := by
    rw [r.read?_compact plain, Option.bind_some, reads]
  exact ⟨arranged .written, arranged .canonical⟩

theorem roundTrips_of_arranged {α : Type} {read : Draft → Option α} {write : α → Json}
    {levels : Nat} (plain : ∀ a, Plain levels (write a))
    (reads : ∀ (r : Arrangement) a, read (ofJson (r.apply (write a))) = some a) :
    RoundTrips read write :=
  fun a => read_of_arranged (plain a) fun r => reads r a

/-- **The way over the wire.** Every request, step, transaction and message is read back from its
text and from its canonical text; and neither text of a request is read as a step, nor one of a step
as a request. -/
theorem wire_round_trip :
    (RoundTrips RequestContent.ofDraft? RequestContent.toJson ∧
      RoundTrips ReadyContent.ofDraft? ReadyContent.toJson ∧
      RoundTrips StartContent.ofDraft? StartContent.toJson ∧
      RoundTrips AcceptContent.ofDraft? AcceptContent.toJson ∧
      RoundTrips KeyContent.ofDraft? KeyContent.toJson ∧
      RoundTrips MacContent.ofDraft? MacContent.toJson ∧
      RoundTrips CancelContent.ofDraft? CancelContent.toJson) ∧
    (RoundTrips (Step.ofDraft? Json.maxNesting) Step.toJson ∧
      RoundTrips (DirectBody.ofDraft? Json.maxNesting) DirectBody.toJson ∧
      RoundTrips (DirectMessage.ofDraft? Json.maxNesting) DirectMessage.toJson ∧
      RoundTrips Transaction.ofDraft? Transaction.toJson ∧
      RoundTrips (ConversationMessage.ofDraft? Json.maxNesting) ConversationMessage.toJson ∧
      RoundTrips (RoomEvent.ofDraft? Json.maxNesting) RoomEvent.toJson) ∧
    (∀ c : RequestContent,
      (Draft.read? c.toJson.compact).bind (DirectBody.stepOfDraft? Json.maxNesting) = none ∧
        (Draft.read? c.toJson.canonical.compact).bind
          (DirectBody.stepOfDraft? Json.maxNesting) = none) ∧
    ∀ s : Step, (Draft.read? s.toJson.compact).bind RequestContent.ofDraft? = none ∧
      (Draft.read? s.toJson.canonical.compact).bind RequestContent.ofDraft? = none := by
  refine ⟨⟨?_, ?_, ?_, ?_, ?_, ?_, ?_⟩, ⟨?_, ?_, ?_, ?_, ?_, ?_⟩, fun c => ?_, fun s => ?_⟩
  · exact roundTrips_of_arranged RequestContent.plain_toJson RequestContent.ofDraft?_arranged
  · exact roundTrips_of_arranged ReadyContent.plain_toJson ReadyContent.ofDraft?_arranged
  · exact roundTrips_of_arranged StartContent.plain_toJson StartContent.ofDraft?_arranged
  · exact roundTrips_of_arranged AcceptContent.plain_toJson AcceptContent.ofDraft?_arranged
  · exact roundTrips_of_arranged KeyContent.plain_toJson KeyContent.ofDraft?_arranged
  · exact roundTrips_of_arranged MacContent.plain_toJson MacContent.ofDraft?_arranged
  · exact roundTrips_of_arranged CancelContent.plain_toJson CancelContent.ofDraft?_arranged
  · exact roundTrips_of_arranged Step.plain_toJson fun r s => s.ofDraft?_arranged r (by decide)
  · exact roundTrips_of_arranged DirectBody.plain_toJson
      fun r b => b.ofDraft?_arranged r (by decide)
  · exact roundTrips_of_arranged DirectMessage.plain_toJson
      fun r m => m.ofDraft?_arranged r (by decide)
  · exact roundTrips_of_arranged Transaction.plain_toJson Transaction.ofDraft?_arranged
  · exact roundTrips_of_arranged ConversationMessage.plain_toJson
      fun r m => m.ofDraft?_arranged r (by decide)
  · exact roundTrips_of_arranged RoomEvent.plain_toJson
      fun r e => e.ofDraft?_arranged r (by decide)
  · exact read_of_arranged c.plain_toJson fun r => c.step_ofDraft?_arranged r Json.maxNesting
  · exact read_of_arranged s.plain_toJson s.request_ofDraft?_arranged

end DeviceVerification
