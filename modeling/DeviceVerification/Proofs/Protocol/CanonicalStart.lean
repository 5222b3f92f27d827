import Mathlib.Data.List.Basic
import DeviceVerification.Crypto.SharedSecret
import DeviceVerification.Proofs.Base64.Alphabet
import DeviceVerification.Proofs.Json.PrefixFree
import DeviceVerification.Protocol.Message

/-!
# What a commitment commits to

A commitment hashes a public key in front of the canonical form of a start, with nothing between the
two. `hashed_bytes_eq_iff` says that the hashed bytes tell everything apart all the same: the key,
every field of the start and every item of its lists, and the transaction with its kind.
-/

namespace DeviceVerification

/-! ## The canonical form -/

namespace Identifier

variable {v : Vocabulary}

theorem canonical_listToJson (l : List (Identifier v)) :
    (listToJson l).canonical = listToJson l := by
  have items : Json.canonicalItems (l.map toJson) = l.map toJson := by
    induction l with
    | nil => rfl
    | cons i rest ih => simp [Json.canonicalItems, toJson, Json.canonical, ih]
  rw [listToJson, Json.canonical, items]

theorem numberFree_listToJson (l : List (Identifier v)) : (listToJson l).NumberFree := by
  refine .array fun j mem => ?_
  obtain ⟨i, -, rfl⟩ := List.mem_map.1 mem
  exact .string i.name

theorem toJson_injective : Function.Injective (toJson (v := v)) := by
  rintro ⟨a⟩ ⟨b⟩ eq
  simpa [toJson] using eq

theorem listToJson_inj {l l' : List (Identifier v)} : listToJson l = listToJson l' ↔ l = l' := by
  constructor
  · intro eq
    exact List.map_injective_iff.2 toJson_injective (Json.array.inj eq)
  · rintro rfl
    rfl

end Identifier

namespace StartContent

variable {c c' : StartContent} {t t' : Transaction}

/-- The members of a start in a transaction, in the order of their keys: a transaction id comes
last, and the relation to an event comes before the second list of algorithms. -/
def canonicalMembers (c : StartContent) : Transaction → List (String × Json)
  | .direct id =>
    [("from_device", .string c.fromDevice), ("hashes", Identifier.listToJson c.hashes),
      ("key_agreement_protocols", Identifier.listToJson c.keyAgreements),
      ("message_authentication_codes", Identifier.listToJson c.macs),
      ("method", c.method.toJson),
      ("short_authentication_string", Identifier.listToJson c.sasMethods),
      ("transaction_id", .string id)]
  | .conversation eventId =>
    [("from_device", .string c.fromDevice), ("hashes", Identifier.listToJson c.hashes),
      ("key_agreement_protocols", Identifier.listToJson c.keyAgreements),
      ("m.relates_to",
        .object [("event_id", .string eventId), ("rel_type", .string "m.reference")]),
      ("message_authentication_codes", Identifier.listToJson c.macs),
      ("method", c.method.toJson),
      ("short_authentication_string", Identifier.listToJson c.sasMethods)]

theorem canonical_attach (c : StartContent) (t : Transaction) :
    (t.attach c.toJson).canonical = .object (c.canonicalMembers t) := by
  -- The keys are compared by evaluation alone: other lemmas on the order of strings get in its way.
  cases t <;>
    simp only [Transaction.attach, toJson, canonicalMembers, Json.set, Json.setMember,
      Json.canonical, Json.canonicalMembers, Dictionary.ofList, Dictionary.insert,
      Dictionary.insertEntry, Dictionary.empty, Identifier.toJson, Identifier.canonical_listToJson,
      List.foldl_cons, List.foldl_nil, String.reduceEq, String.reduceLT, ↓reduceIte]

theorem numberFree_canonicalMembers (c : StartContent) (t : Transaction) :
    ∀ m ∈ c.canonicalMembers t, m.2.NumberFree := by
  have relation : ∀ eventId, Json.NumberFree
      (.object [("event_id", .string eventId), ("rel_type", .string "m.reference")]) := by
    intro eventId
    refine .object fun m mem => ?_
    simp only [List.mem_cons, List.not_mem_nil, or_false] at mem
    rcases mem with rfl | rfl <;> exact .string _
  cases t <;>
    simp [canonicalMembers, Identifier.numberFree_listToJson, Identifier.toJson,
      Json.NumberFree.string, relation]

/-- The members tell the start and the transaction. -/
theorem canonicalMembers_inj (eq : c.canonicalMembers t = c'.canonicalMembers t') :
    c = c' ∧ t = t' := by
  obtain ⟨device, method, hashes, keyAgreements, macs, sasMethods⟩ := c
  obtain ⟨device', method', hashes', keyAgreements', macs', sasMethods'⟩ := c'
  cases t <;> cases t' <;>
    simp [canonicalMembers, Identifier.listToJson_inj, Identifier.toJson_injective.eq_iff] at eq ⊢
  · tauto
  · tauto

/-- A canonical form begins with a brace, which no key contains. -/
theorem canonicalText_toList (c : StartContent) (t : Transaction) :
    ∃ rest, (c.canonicalText t).toList = '{' :: rest ∧
      '{' :: rest = Json.print (.object (c.canonicalMembers t)) := by
  have free : Json.NumberFree (.object (c.canonicalMembers t)) :=
    .object (numberFree_canonicalMembers c t)
  obtain ⟨rest, written⟩ := Json.print_eq_opening_cons free
  refine ⟨rest, ?_, written.symm⟩
  rw [canonicalText, canonical_attach, Json.compact, String.toList_ofList, written]
  rfl

/-! ## The hashed bytes -/

/-- A list is split in one way only at the first place of an element. -/
theorem split_at_first {α : Type} {a : α} {l l' r r' : List α} (free : a ∉ l) (free' : a ∉ l')
    (eq : l ++ a :: r = l' ++ a :: r') : l = l' ∧ r = r' := by
  induction l generalizing l' with
  | nil =>
    cases l' with
    | nil => exact ⟨rfl, (List.cons.inj eq).2⟩
    | cons b rest => exact absurd ((List.cons.inj eq).1 ▸ List.mem_cons_self) free'
  | cons b rest ih =>
    cases l' with
    | nil => exact absurd ((List.cons.inj eq).1 ▸ List.mem_cons_self) free
    | cons b' rest' =>
      obtain ⟨rfl, tail⟩ := List.cons.inj eq
      obtain ⟨rfl, after⟩ := ih (fun mem => free (List.mem_cons_of_mem _ mem))
        (fun mem => free' (List.mem_cons_of_mem _ mem)) tail
      exact ⟨rfl, after⟩

theorem brace_not_mem_of_spelled {key : String} (h : Base64.Spelled key) : '{' ∉ key.toList :=
  fun mem => absurd (h _ mem) (by decide)

/-- **A commitment tells everything apart.** The bytes that are hashed for a key and a start in a
transaction are the same only for the same key, the same start and the same transaction, as long as
the keys are texts in Base64. -/
theorem hashed_bytes_eq_iff {key key' : String} (spelled : Base64.Spelled key)
    (spelled' : Base64.Spelled key') :
    utf8 key ++ utf8 (c.canonicalText t) = utf8 key' ++ utf8 (c'.canonicalText t') ↔
      key = key' ∧ t = t' ∧ c = c' := by
  constructor
  · intro eq
    have texts : key ++ c.canonicalText t = key' ++ c'.canonicalText t' := by
      refine utf8_inj.1 ?_
      simpa [utf8] using eq
    obtain ⟨rest, text, written⟩ := canonicalText_toList c t
    obtain ⟨rest', text', written'⟩ := canonicalText_toList c' t'
    have chars : key.toList ++ '{' :: rest = key'.toList ++ '{' :: rest' := by
      rw [← text, ← text', ← String.toList_append, ← String.toList_append, texts]
    obtain ⟨keys, starts⟩ := split_at_first (brace_not_mem_of_spelled spelled)
      (brace_not_mem_of_spelled spelled') chars
    have printed : Json.print (.object (c.canonicalMembers t)) ++ [] =
        Json.print (.object (c'.canonicalMembers t')) ++ [] := by
      rw [← written, ← written', starts]
    obtain ⟨members, -⟩ := Json.print_append_inj (.object (numberFree_canonicalMembers c t))
      (.object (numberFree_canonicalMembers c' t')) printed
    obtain ⟨start, transaction⟩ := canonicalMembers_inj (Json.object.inj members)
    exact ⟨String.toList_inj.1 keys, transaction, start⟩
  · rintro ⟨rfl, rfl, rfl⟩
    rfl

/-- The public half of a key pair is such a text. -/
theorem spelled_publicKey (pair : KeyPair) : Base64.Spelled pair.publicKey :=
  Base64.spelled_encode _

/-- A start of a device whose name reads like the members that follow it. -/
def sampleStart : StartContent :=
  ⟨"A\",\"hashes\":[],\"transaction_id\":\"tx", .sas, [.sha256], [.curve25519], [.current],
    [.decimal, ⟨"\t😀"⟩]⟩

/-- The key of a device that has one. -/
def sampleKey : String := KeyPair.publicKey ⟨Vector.replicate 32 5⟩

/-- Behind one key, a direct transaction and an event of the same id are told apart. -/
theorem hashed_bytes_eq_iff_sample : Base64.Spelled sampleKey ∧
    utf8 sampleKey ++ utf8 (sampleStart.canonicalText (.direct "tx")) ≠
      utf8 sampleKey ++ utf8 (sampleStart.canonicalText (.conversation "tx")) := by
  have spelled : Base64.Spelled sampleKey := spelled_publicKey _
  refine ⟨spelled, fun same => ?_⟩
  obtain ⟨-, transactions, -⟩ := (hashed_bytes_eq_iff spelled spelled).1 same
  cases transactions

end StartContent

end DeviceVerification
