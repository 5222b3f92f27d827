/-!
# Finite maps from texts

A `Dictionary` lists its entries in the order of their keys, which is the order of their UTF-8
forms, so what it holds determines the list (`entries_eq_of_mem_iff`) and a printed dictionary has
one form. The lookups of a dictionary are its entries (`mem_entries_iff`), and `get?_insert` says
what becomes of them when an entry is put in.
-/

namespace DeviceVerification

/-- A finite map from texts, listed in the order of its keys. -/
structure Dictionary (α : Type) where
  entries : List (String × α)
  sorted : entries.Pairwise fun a b => a.1 < b.1
  deriving DecidableEq

namespace Dictionary

variable {α β : Type}

/-- The dictionary without entries. -/
def empty : Dictionary α := ⟨[], .nil⟩

instance : EmptyCollection (Dictionary α) := ⟨empty⟩

instance : Inhabited (Dictionary α) := ⟨empty⟩

/-- The value of a key in a list of entries. -/
def lookup (key : String) : List (String × α) → Option α
  | [] => none
  | (k, v) :: rest => if k = key then some v else lookup key rest

/-- The value of a key. -/
def get? (d : Dictionary α) (key : String) : Option α := lookup key d.entries

/-- The keys in order. -/
def keys (d : Dictionary α) : List String := d.entries.map (·.1)

/-- The values in the order of their keys. -/
def values (d : Dictionary α) : List α := d.entries.map (·.2)

/-- Puts an entry into its place among sorted entries, replacing the one with its key. -/
def insertEntry (key : String) (value : α) : List (String × α) → List (String × α)
  | [] => [(key, value)]
  | (k, v) :: rest =>
    if key < k then (key, value) :: (k, v) :: rest
    else if key = k then (key, value) :: rest
    else (k, v) :: insertEntry key value rest

theorem mem_insertEntry {key : String} {value : α} {l : List (String × α)} {e : String × α}
    (h : e ∈ insertEntry key value l) : e = (key, value) ∨ e ∈ l := by
  induction l with
  | nil => simpa [insertEntry] using h
  | cons a rest ih =>
    obtain ⟨k, v⟩ := a
    simp only [insertEntry] at h
    split at h
    · simpa using h
    · split at h
      · rcases List.mem_cons.1 h with h | h
        · exact .inl h
        · exact .inr (List.mem_cons_of_mem _ h)
      · rcases List.mem_cons.1 h with h | h
        · exact .inr (h ▸ List.mem_cons_self)
        · rcases ih h with h | h
          · exact .inl h
          · exact .inr (List.mem_cons_of_mem _ h)

theorem sorted_insertEntry (key : String) (value : α) {l : List (String × α)}
    (h : l.Pairwise fun a b => a.1 < b.1) :
    (insertEntry key value l).Pairwise fun a b => a.1 < b.1 := by
  induction l with
  | nil => simp [insertEntry]
  | cons a rest ih =>
    obtain ⟨k, v⟩ := a
    obtain ⟨head, tail⟩ := List.pairwise_cons.1 h
    simp only [insertEntry]
    split
    · rename_i lt
      refine List.pairwise_cons.2 ⟨fun b hb => ?_, h⟩
      rcases List.mem_cons.1 hb with rfl | hb
      · exact lt
      · exact String.lt_trans lt (head b hb)
    · rename_i nlt
      split
      · rename_i eq
        subst eq
        exact List.pairwise_cons.2 ⟨head, tail⟩
      · rename_i ne
        refine List.pairwise_cons.2 ⟨fun b hb => ?_, ih tail⟩
        rcases mem_insertEntry hb with rfl | hb
        · refine Classical.byContradiction fun c => ne ?_
          exact String.le_antisymm (String.not_lt.1 c) (String.not_lt.1 nlt)
        · exact head b hb

/-- The dictionary with one more entry, which replaces the one with its key. -/
def insert (d : Dictionary α) (key : String) (value : α) : Dictionary α :=
  ⟨insertEntry key value d.entries, sorted_insertEntry key value d.sorted⟩

/-- The dictionary of a list of entries; of entries with one key the last one counts. -/
def ofList (l : List (String × α)) : Dictionary α :=
  l.foldl (fun d e => d.insert e.1 e.2) empty

/-- Applies a function to every value. -/
def map (f : α → β) (d : Dictionary α) : Dictionary β :=
  ⟨d.entries.map fun e => (e.1, f e.2), List.pairwise_map.2 d.sorted⟩

/-- Whether a key has a value. -/
def contains (d : Dictionary α) (key : String) : Bool := (d.get? key).isSome

theorem lookup_insertEntry (key : String) (value : α) (l : List (String × α)) (x : String) :
    lookup x (insertEntry key value l) = if x = key then some value else lookup x l := by
  induction l with
  | nil =>
    by_cases h : x = key
    · simp [insertEntry, lookup, h]
    · simp [insertEntry, lookup, h, Ne.symm h]
  | cons a rest ih =>
    obtain ⟨k, v⟩ := a
    simp only [insertEntry]
    split
    · by_cases h : x = key
      · simp [lookup, h]
      · simp [lookup, h, Ne.symm h]
    · split
      · rename_i eq
        subst eq
        by_cases h : x = key
        · simp [lookup, h]
        · simp [lookup, h, Ne.symm h]
      · rename_i ne
        simp only [lookup, ih]
        by_cases h : k = x
        · subst h
          simp [Ne.symm ne]
        · simp [h]

@[simp] theorem get?_empty (x : String) : (empty : Dictionary α).get? x = none := rfl

@[simp] theorem get?_insert (d : Dictionary α) (key : String) (value : α) (x : String) :
    (d.insert key value).get? x = if x = key then some value else d.get? x :=
  lookup_insertEntry key value d.entries x

theorem lookup_eq_some_of_mem {l : List (String × α)} (s : l.Pairwise fun a b => a.1 < b.1)
    {e : String × α} (h : e ∈ l) : lookup e.1 l = some e.2 := by
  induction l with
  | nil => simp at h
  | cons a rest ih =>
    obtain ⟨head, tail⟩ := List.pairwise_cons.1 s
    rcases List.mem_cons.1 h with rfl | h
    · simp [lookup]
    · have : a.1 ≠ e.1 := fun c => String.lt_irrefl _ (c ▸ head e h)
      simp [lookup, this, ih tail h]

theorem mem_of_lookup_eq_some {l : List (String × α)} {key : String} {value : α}
    (h : lookup key l = some value) : (key, value) ∈ l := by
  induction l with
  | nil => simp [lookup] at h
  | cons a rest ih =>
    obtain ⟨k, v⟩ := a
    simp only [lookup] at h
    split at h
    · rename_i eq
      cases h
      exact eq ▸ List.mem_cons_self
    · exact List.mem_cons_of_mem _ (ih h)

/-- An entry is what its key looks up. -/
theorem mem_entries_iff {d : Dictionary α} {key : String} {value : α} :
    (key, value) ∈ d.entries ↔ d.get? key = some value :=
  ⟨fun h => lookup_eq_some_of_mem d.sorted h, mem_of_lookup_eq_some⟩

theorem entries_eq_of_mem_iff {l m : List (String × α)}
    (hl : l.Pairwise fun a b => a.1 < b.1) (hm : m.Pairwise fun a b => a.1 < b.1)
    (h : ∀ e, e ∈ l ↔ e ∈ m) : l = m := by
  induction l generalizing m with
  | nil =>
    cases m with
    | nil => rfl
    | cons b m => exact absurd ((h b).2 List.mem_cons_self) (List.not_mem_nil)
  | cons a l ih =>
    cases m with
    | nil => exact absurd ((h a).1 List.mem_cons_self) (List.not_mem_nil)
    | cons b m =>
      obtain ⟨ha, hl'⟩ := List.pairwise_cons.1 hl
      obtain ⟨hb, hm'⟩ := List.pairwise_cons.1 hm
      have eq : a = b := by
        rcases List.mem_cons.1 ((h a).1 List.mem_cons_self) with e | e
        · exact e
        · rcases List.mem_cons.1 ((h b).2 List.mem_cons_self) with f | f
          · exact f.symm
          · exact absurd (ha b f) (String.lt_asymm (hb a e))
      subst eq
      congr 1
      refine ih hl' hm' fun e => ⟨fun he => ?_, fun he => ?_⟩
      · rcases List.mem_cons.1 ((h e).1 (List.mem_cons_of_mem _ he)) with rfl | k
        · exact absurd (ha e he) (String.lt_irrefl _)
        · exact k
      · rcases List.mem_cons.1 ((h e).2 (List.mem_cons_of_mem _ he)) with rfl | k
        · exact absurd (hb e he) (String.lt_irrefl _)
        · exact k

end Dictionary

end DeviceVerification
