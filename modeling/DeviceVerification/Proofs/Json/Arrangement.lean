import Mathlib.Data.List.Perm.Basic
import DeviceVerification.Json.Record
import DeviceVerification.Proofs.Json.ReadBack

/-!
# The order of members

The members of an object can be written in any order, and in canonical form they are in the order of
their keys. An `Arrangement` orders the members of all objects of a value in some way: to leave them
as they are is one, `Json.canonical` is another. Readers of records and of dictionaries get the same
whatever the arrangement is (`Arrangement.record?`, `Arrangement.dictionary?`), and a text is read
back as the value it was written for, arranged as it was written (`Arrangement.read?_compact`).
-/

namespace DeviceVerification

/-! ## Dictionaries -/

namespace Dictionary

variable {α : Type}

theorem perm_insertEntry {key : String} (value : α) {l : List (String × α)}
    (absent : key ∉ l.map (·.1)) : (insertEntry key value l).Perm ((key, value) :: l) := by
  induction l with
  | nil => exact .refl _
  | cons e rest ih =>
    obtain ⟨k, v⟩ := e
    obtain ⟨other, further⟩ : key ≠ k ∧ key ∉ rest.map (·.1) := by simpa using absent
    rw [insertEntry]
    split
    · exact .refl _
    · exact ((ih further).cons (k, v)).trans (.swap _ _ _)

theorem perm_foldl_insert {l : List (String × α)} {d : Dictionary α}
    (keys : ((l ++ d.entries).map (·.1)).Nodup) :
    (l.foldl (fun d e => d.insert e.1 e.2) d).entries.Perm (l ++ d.entries) := by
  induction l generalizing d with
  | nil => exact .refl _
  | cons e rest ih =>
    have absent : e.1 ∉ d.entries.map (·.1) := by
      intro mem
      have fresh := (List.nodup_cons.1 keys).1
      exact fresh (List.map_append ▸ List.mem_append_right _ mem)
    have inserted : (d.insert e.1 e.2).entries.Perm (e :: d.entries) :=
      perm_insertEntry e.2 absent
    have moved : (rest ++ (d.insert e.1 e.2).entries).Perm (e :: rest ++ d.entries) :=
      (inserted.append_left rest).trans List.perm_middle
    exact (ih ((moved.map (·.1)).nodup_iff.2 keys)).trans moved

/-- A dictionary has the entries of the list it was made of, if no key occurs twice there. -/
theorem perm_ofList {l : List (String × α)} (keys : (l.map (·.1)).Nodup) :
    (ofList l).entries.Perm l := by
  have whole := perm_foldl_insert (l := l) (d := empty) (by simpa [empty] using keys)
  simpa [ofList, empty] using whole

theorem nodup_keys (d : Dictionary α) : (d.entries.map (·.1)).Nodup := by
  have sorted : (d.entries.map (·.1)).Pairwise (· < ·) := List.pairwise_map.2 d.sorted
  refine sorted.imp fun {a b} lt => ?_
  rintro rfl
  exact String.lt_irrefl a lt

/-- The entries of a dictionary make it up again, in whatever order. -/
theorem ofList_of_perm {l : List (String × α)} {d : Dictionary α} (perm : l.Perm d.entries) :
    ofList l = d := by
  have keys : (l.map (·.1)).Nodup := (perm.map (·.1)).nodup_iff.2 d.nodup_keys
  have entries := entries_eq_of_mem_iff (ofList l).sorted d.sorted fun e =>
    ((perm_ofList keys).trans perm).mem_iff
  cases made : ofList l
  cases d
  rw [made] at entries
  cases entries
  rfl

end Dictionary

namespace Json

/-! ## Arrangements -/

/-- An order for the members of all objects in a value. -/
structure Arrangement where
  apply : Json → Json
  null : apply .null = .null
  bool : ∀ b, apply (.bool b) = .bool b
  number : ∀ n, apply (.number n) = .number n
  string : ∀ s, apply (.string s) = .string s
  array : ∀ items, apply (.array items) = .array (items.map apply)
  object : ∀ members : List (String × Json), (members.map (·.1)).Nodup →
    ∃ members', apply (.object members) = .object members' ∧
      members'.Perm (members.map fun m => (m.1, apply m.2))

theorem canonicalItems_eq_map (items : List Json) : canonicalItems items = items.map canonical := by
  induction items with
  | nil => rfl
  | cons j rest ih => rw [canonicalItems, ih, List.map_cons]

theorem canonicalMembers_eq_map (members : List (String × Json)) :
    canonicalMembers members = members.map fun m => (m.1, canonical m.2) := by
  induction members with
  | nil => rfl
  | cons m rest ih => rw [canonicalMembers, ih, List.map_cons]

namespace Arrangement

/-- Members stay in the order in which they are. -/
def written : Arrangement where
  apply j := j
  null := rfl
  bool _ := rfl
  number _ := rfl
  string _ := rfl
  array items := by rw [List.map_id']
  object members _ := ⟨members, rfl, by rw [List.map_id']⟩

/-- Members are in the order of their keys. -/
def canonical : Arrangement where
  apply := Json.canonical
  null := by rw [Json.canonical]
  bool _ := by rw [Json.canonical]
  number _ := by rw [Json.canonical]
  string _ := by rw [Json.canonical]
  array items := by rw [Json.canonical, canonicalItems_eq_map]
  object members keys := by
    refine ⟨_, by rw [Json.canonical], ?_⟩
    rw [canonicalMembers_eq_map]
    refine Dictionary.perm_ofList ?_
    rw [List.map_map]
    exact keys

variable (r : Arrangement) {levels : Nat} {j : Json} {members : List (String × Json)}

/-- An object with one member can be arranged in one way only. -/
theorem object_singleton (key : String) (j : Json) :
    r.apply (.object [(key, j)]) = .object [(key, r.apply j)] := by
  obtain ⟨members, same, perm⟩ := r.object [(key, j)] (by simp)
  rw [same, List.perm_singleton.1 perm]

/-- An arranged value can still be given back. -/
theorem plain (h : Plain levels j) : Plain levels (r.apply j) := by
  induction h with
  | null =>
    rw [r.null]
    exact .null _
  | bool _ b =>
    rw [r.bool]
    exact .bool _ b
  | integer _ h =>
    rw [r.number]
    exact .integer _ h
  | string _ s =>
    rw [r.string]
    exact .string _ s
  | array _ ih =>
    rw [r.array]
    refine .array fun j mem => ?_
    obtain ⟨i, listed, rfl⟩ := List.mem_map.1 mem
    exact ih i listed
  | @object _ members keys _ ih =>
    obtain ⟨members', same, perm⟩ := r.object members keys
    rw [same]
    refine .object ?_ fun m mem => ?_
    · refine (perm.map (·.1)).nodup_iff.2 ?_
      rw [List.map_map]
      exact keys
    · obtain ⟨m', listed, rfl⟩ := List.mem_map.1 (perm.mem_iff.1 mem)
      exact ih m' listed

/-- A text is read back as it was arranged. -/
theorem read?_compact (h : Plain levels j) :
    Draft.read? (r.apply j).compact = some (.ofJson (r.apply j)) :=
  Draft.read?_compact (r.plain h)

end Arrangement

/-! ## Records -/

namespace Draft

variable {α β γ : Type} {members members' : List (Option String × Draft)}

/-- What is read of each item of a list, is read of the list. -/
theorem mapM_map_eq_some {f : β → Option γ} {g : α → β} {k : α → γ} {l : List α}
    (h : ∀ a ∈ l, f (g a) = some (k a)) : (l.map g).mapM f = some (l.map k) := by
  induction l with
  | nil => rfl
  | cons a rest ih =>
    have tail := ih fun b mem => h b (List.mem_cons_of_mem a mem)
    simp [h a List.mem_cons_self, tail]

theorem mapM_cons_eq_some {f : β → Option γ} {b : β} {l : List β} {cs : List γ} :
    (b :: l).mapM f = some cs ↔ ∃ c rest, f b = some c ∧ l.mapM f = some rest ∧ cs = c :: rest := by
  rw [List.mapM_cons]
  constructor
  · intro h
    obtain ⟨c, first, h⟩ := Option.bind_eq_some_iff.1 h
    obtain ⟨rest, tail, h⟩ := Option.bind_eq_some_iff.1 h
    exact ⟨c, rest, first, tail, (Option.some.inj h).symm⟩
  · rintro ⟨c, rest, first, tail, rfl⟩
    rw [first, tail]
    rfl

/-- The same is read of the items of a list in another order. -/
theorem mapM_perm {f : β → Option γ} {l l' : List β} (perm : l.Perm l') {cs : List γ}
    (h : l'.mapM f = some cs) : ∃ cs', l.mapM f = some cs' ∧ cs'.Perm cs := by
  induction perm generalizing cs with
  | nil => exact ⟨cs, h, .refl cs⟩
  | cons b _ ih =>
    obtain ⟨c, rest, first, tail, rfl⟩ := mapM_cons_eq_some.1 h
    obtain ⟨rest', tail', same⟩ := ih tail
    exact ⟨c :: rest', mapM_cons_eq_some.2 ⟨c, rest', first, tail', rfl⟩, same.cons c⟩
  | swap b b' l =>
    obtain ⟨c, rest, first, tail, rfl⟩ := mapM_cons_eq_some.1 h
    obtain ⟨c', rest', second, tail', rfl⟩ := mapM_cons_eq_some.1 tail
    refine ⟨c' :: c :: rest', ?_, .swap _ _ _⟩
    exact mapM_cons_eq_some.2 ⟨c', _, second, mapM_cons_eq_some.2 ⟨c, _, first, tail', rfl⟩, rfl⟩
  | trans _ _ ih ih' =>
    obtain ⟨mid, read, same⟩ := ih' h
    obtain ⟨cs', read', same'⟩ := ih read
    exact ⟨cs', read', same'.trans same⟩

/-- A field is found wherever it is. -/
theorem slot?_perm (perm : members.Perm members') (name : String) :
    slot? members name = slot? members' name := by
  have named : (membersNamed name members).Perm (membersNamed name members') :=
    (perm.filter _).map _
  unfold slot?
  generalize membersNamed name members = l at named
  generalize membersNamed name members' = l' at named
  match l, l', named with
  | [], l', named => rw [List.nil_perm.1 named]
  | [d], l', named => rw [List.singleton_perm.1 named]
  | _ :: _ :: _, [], named => cases List.perm_nil.1 named
  | _ :: _ :: _, [_], named => cases List.perm_singleton.1 named
  | _ :: _ :: _, _ :: _ :: _, _ => rfl

theorem record?_perm (perm : members.Perm members') (names : List String) :
    record? names (.object members) = record? names (.object members') := by
  have fields : slot? members = slot? members' := funext (slot?_perm perm)
  rw [record?, record?, fields, perm.all_eq]

theorem membersNamed_eq {members : List (String × Draft)} (keys : (members.map (·.1)).Nodup)
    {m : String × Draft} (mem : m ∈ members) :
    membersNamed m.1 (members.map fun m => (some m.1, m.2)) = [m.2] := by
  induction members with
  | nil => cases mem
  | cons first rest ih =>
    obtain ⟨other, keys⟩ := List.nodup_cons.1 keys
    have absent : ∀ m ∈ rest, m.1 ≠ first.1 := fun m mem same =>
      other (List.mem_map.2 ⟨m, mem, same⟩)
    rcases List.mem_cons.1 mem with rfl | further
    · have none : (rest.map fun e => (some e.1, e.2)).filter (fun e => e.1 == some m.1) = [] := by
        refine List.filter_eq_nil_iff.2 fun e listed => ?_
        obtain ⟨m', inside, rfl⟩ := List.mem_map.1 listed
        simpa using absent m' inside
      simp [membersNamed, none]
    · have tail := ih keys further
      have different : first.1 ≠ m.1 := Ne.symm (absent m further)
      simpa [membersNamed, different] using tail

/-- An object with the fields of a record gives each of them. -/
theorem record?_object (members : List (String × Draft)) (keys : (members.map (·.1)).Nodup) :
    record? (members.map (·.1)) (.object (members.map fun m => (some m.1, m.2))) =
      some (members.map fun m => (m.1, .given m.2)) := by
  have named : (members.map fun m => (some m.1, m.2)).all (fun m => m.1.isSome) = true := by
    simp
  rw [record?, if_pos named]
  refine mapM_map_eq_some fun m mem => ?_
  rw [slot?, membersNamed_eq keys mem]

@[simp] theorem field_cons_self (name : String) (s : Slot) (r : Record) :
    Record.field ((name, s) :: r) name = s := by
  simp [Record.field, Dictionary.lookup]

@[simp] theorem field_cons_of_ne {name other : String} (different : other ≠ name) (s : Slot)
    (r : Record) : Record.field ((other, s) :: r) name = r.field name := by
  simp [Record.field, Dictionary.lookup, different]

/-- The entries of a dictionary are read from an object in whatever order. -/
theorem dictionary?_perm {read : Draft → Option α} (write : α → Draft) {d : Dictionary α}
    (reads : ∀ a, read (write a) = some a)
    (perm : members.Perm (d.entries.map fun e => (some e.1, write e.2))) :
    (Draft.object members).dictionary? read = some d := by
  have entries : (d.entries.map fun e => (some e.1, write e.2)).mapM (member? read) =
      some (d.entries.map id) := by
    refine mapM_map_eq_some fun e _ => ?_
    simp [member?, reads]
  obtain ⟨l, found, same⟩ := mapM_perm perm entries
  rw [List.map_id] at same
  rw [dictionary?, found, Option.map_some, Dictionary.ofList_of_perm same]

end Draft

open Draft (ofJson ofItems ofMembers)

namespace Arrangement

variable (r : Arrangement)

/-- What is read of an arranged object, in some order. -/
theorem exists_ofJson (members : List (String × Json)) (keys : (members.map (·.1)).Nodup) :
    ∃ drafts, ofJson (r.apply (.object members)) = .object drafts ∧
      drafts.Perm (members.map fun m => (some m.1, ofJson (r.apply m.2))) := by
  obtain ⟨members', same, perm⟩ := r.object members keys
  refine ⟨ofMembers members', by rw [same, ofJson], ?_⟩
  rw [ofMembers_eq_map]
  have mapped := perm.map fun m => (some m.1, ofJson m.2)
  rwa [List.map_map] at mapped

/-- Readers of records find the fields of an object in any arrangement. -/
theorem record? (members : List (String × Json)) (keys : (members.map (·.1)).Nodup) :
    (ofJson (r.apply (.object members))).record? (members.map (·.1)) =
      some (members.map fun m => (m.1, .given (ofJson (r.apply m.2)))) := by
  obtain ⟨drafts, same, perm⟩ := r.exists_ofJson members keys
  have whole := Draft.record?_object (members.map fun m => (m.1, ofJson (r.apply m.2)))
    (by rw [List.map_map]; exact keys)
  rw [same, Draft.record?_perm perm]
  rw [List.map_map, List.map_map, List.map_map] at whole
  exact whole

@[simp] theorem text? (s : String) : (ofJson (r.apply (.string s))).text? = some s := by
  rw [r.string]
  rfl

@[simp] theorem choice? (s : String) : (ofJson (r.apply (.string s))).choice? = some s := by
  rw [r.string]
  rfl

@[simp] theorem flag? (b : Bool) : (ofJson (r.apply (.bool b))).flag? = some b := by
  rw [r.bool]
  rfl

/-- Readers of dictionaries find the entries of an object in any arrangement. -/
theorem dictionary? {α : Type} {write : α → Json} {read : Draft → Option α}
    (reads : ∀ a, read (ofJson (r.apply (write a))) = some a) (d : Dictionary α) :
    (ofJson (r.apply (.object (d.map write).entries))).dictionary? read = some d := by
  obtain ⟨drafts, same, perm⟩ := r.exists_ofJson _ (d.map write).nodup_keys
  rw [same]
  refine Draft.dictionary?_perm (fun a => ofJson (r.apply (write a))) reads ?_
  simpa [Dictionary.map, Function.comp_def] using perm

end Arrangement

/-- A dictionary of values that a document gives back is such a value. -/
theorem Plain.dictionary {α : Type} {levels : Nat} {write : α → Json}
    (h : ∀ a, Plain levels (write a)) (d : Dictionary α) :
    Plain (levels + 1) (.object (d.map write).entries) := by
  refine .object (d.map write).nodup_keys fun m mem => ?_
  obtain ⟨e, -, rfl⟩ := List.mem_map.1 mem
  exact h e.2

end Json

end DeviceVerification
