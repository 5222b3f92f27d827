/-!
# Logs of runs

A run writes down its events in order. What has to have happened before an event is a predicate of
the events before it and the event; `Grounded` says that it holds of every event of a log, and
`grounded_concat` is how a run keeps it. What an event brought about lasts until another one undoes
it, which `exists_since_concat` follows through a run.
-/

namespace DeviceVerification

variable {α : Type}

/-- Every entry of a log satisfies `P` given the entries before it. -/
def Grounded (P : List α → α → Prop) (log : List α) : Prop :=
  ∀ before e after, log = before ++ e :: after → P before e

theorem grounded_nil (P : List α → α → Prop) : Grounded P [] := by
  intro before e after h
  simp at h

/-- A log with one more entry is grounded if the log and the last entry are. -/
theorem grounded_concat {P : List α → α → Prop} {log : List α} {e : α} (h : Grounded P log)
    (last : P log e) : Grounded P (log ++ [e]) := by
  intro before e' after split
  rcases List.eq_nil_or_concat after with rfl | ⟨rest, e'', rfl⟩
  · obtain ⟨rfl, tail⟩ := List.append_inj' split rfl
    cases tail
    exact last
  · rw [List.concat_eq_append, ← List.cons_append, ← List.append_assoc] at split
    obtain ⟨rfl, -⟩ := List.append_inj' split rfl
    exact h before e' rest rfl

/-- Something is in the log, after what it needs, and nothing since undid it: what one more entry
means for that. -/
theorem exists_since_concat {P : List α → α → Prop} {Q : α → Prop} {log : List α} {e : α} :
    (∃ before e' since, log ++ [e] = before ++ e' :: since ∧ P before e' ∧ ∀ u ∈ since, ¬Q u) ↔
      P log e ∨ ¬Q e ∧
        ∃ before e' since, log = before ++ e' :: since ∧ P before e' ∧ ∀ u ∈ since, ¬Q u := by
  constructor
  · rintro ⟨before, e', since, split, holds, silent⟩
    rcases List.eq_nil_or_concat since with rfl | ⟨rest, e'', rfl⟩
    · obtain ⟨rfl, tail⟩ := List.append_inj' split rfl
      cases tail
      exact .inl holds
    · rw [List.concat_eq_append, ← List.cons_append, ← List.append_assoc] at split
      obtain ⟨rfl, tail⟩ := List.append_inj' split rfl
      cases tail
      rw [List.concat_eq_append, List.forall_mem_append] at silent
      exact .inr ⟨silent.2 e List.mem_cons_self, before, e', rest, rfl, holds, silent.1⟩
  · rintro (holds | ⟨silent, before, e', since, rfl, holds, quiet⟩)
    · exact ⟨log, e, [], rfl, holds, nofun⟩
    · refine ⟨before, e', since ++ [e], by simp, holds, ?_⟩
      rw [List.forall_mem_append]
      exact ⟨quiet, List.forall_mem_singleton.2 silent⟩

/-- Something is in the log, after what it needs: what one more entry means for that. -/
theorem exists_split_concat {P : List α → α → Prop} {log : List α} {e : α} :
    (∃ before e' after, log ++ [e] = before ++ e' :: after ∧ P before e') ↔
      (∃ before e' after, log = before ++ e' :: after ∧ P before e') ∨ P log e := by
  have last := @exists_since_concat α P (fun _ => False) log e
  simpa [or_comm] using last

end DeviceVerification
