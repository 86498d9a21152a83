import Mathlib.Tactic.Lemma

/-! Parts that are joined with something between them. -/
namespace GridRobot

/-- With one more separator at the end, every piece is followed by one. -/
lemma intercalate_append_separator {α : Type} (a : α) {xs : List (List α)} (filled : xs ≠ []) :
    List.intercalate [a] xs ++ [a] = (xs.map fun x => x ++ [a]).flatten := by
  induction xs with
  | nil => exact absurd rfl filled
  | cons y ys ih =>
    cases ys with
    | nil => simp
    | cons z zs =>
      rw [List.intercalate_cons_cons, List.append_assoc, ih (by simp)]
      rfl

/-- What is in a text put together of parts is in a part, or in what stands between them. -/
lemma exists_mem_of_mem_intercalate {α : Type} {a : α} {separator : List α} {parts : List (List α)}
    (h : a ∈ List.intercalate separator parts) : a ∈ separator ∨ ∃ part ∈ parts, a ∈ part := by
  induction parts with
  | nil => simp at h
  | cons part parts ih =>
    cases parts with
    | nil => exact .inr ⟨part, List.mem_cons_self, by simpa using h⟩
    | cons next parts =>
      rw [List.intercalate_cons_cons, List.mem_append, List.mem_append] at h
      rcases h with (here | between) | later
      · exact .inr ⟨part, List.mem_cons_self, here⟩
      · exact .inl between
      · obtain inSeparator | ⟨q, hq, inside⟩ := ih later
        · exact .inl inSeparator
        · exact .inr ⟨q, List.mem_cons_of_mem _ hq, inside⟩

end GridRobot
