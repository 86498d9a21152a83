import GridRobot.Proofs.Settings.Merge

/-! Sections put over one another: every key has what is put over what it had. -/
namespace GridRobot
namespace Environment

variable {low high : Option Data} {ls ms : Members} {key : String}

/-- What is given above is put over what is given below. -/
def atop (low : Option Data) : Option Data → Option Data
  | some d => some (layered low d)
  | none => low

/-- A section that is not given, or an object that has every name once. -/
def IsSection (d : Option Data) : Prop :=
  ∀ x ∈ d, ∃ ms : Members, x = .object ms ∧ (ms.map Prod.fst).Nodup

lemma get?_mergeInto_eq_atop (distinct : (ms.map Prod.fst).Nodup) :
    (mergeInto ls ms).get? key = atop (ls.get? key) (ms.get? key) := by
  rw [get?_mergeInto distinct]
  cases ms.get? key <;> rfl

lemma isSection_none : IsSection none := fun _ hx => nomatch hx

lemma isSection_object (distinct : (ms.map Prod.fst).Nodup) : IsSection (some (.object ms)) :=
  fun _ hx => ⟨ms, (Option.some.inj hx).symm, distinct⟩

lemma IsSection.cases (h : IsSection high) :
    high = none ∨ ∃ ms : Members, high = some (.object ms) ∧ (ms.map Prod.fst).Nodup := by
  cases high with
  | none => exact .inl rfl
  | some d =>
    obtain ⟨ms, rfl, distinct⟩ := h d rfl
    exact .inr ⟨ms, rfl, distinct⟩

lemma layered_object (ls ms : Members) :
    layered (some (.object ls)) (.object ms) = .object (mergeInto ls ms) := by
  rw [layered, mergedOver]

theorem isSection_atop (hl : IsSection low) (hh : IsSection high) : IsSection (atop low high) := by
  rcases hh.cases with rfl | ⟨ms, rfl, distinct⟩
  · exact hl
  · rcases hl.cases with rfl | ⟨ls, rfl, below⟩
    · exact isSection_object distinct
    · rw [atop, layered_object]
      exact isSection_object (nodup_mergeInto below ms)

/-- Nothing that a section has is lost under a section that does not have it. -/
theorem under?_atop (hl : IsSection low) (hh : IsSection high) (key : String) :
    (atop low high).bind (Data.under? key) =
      atop (low.bind (Data.under? key)) (high.bind (Data.under? key)) := by
  rcases hh.cases with rfl | ⟨ms, rfl, distinct⟩
  · rfl
  · rcases hl.cases with rfl | ⟨ls, rfl, -⟩
    · cases found : ms.get? key with
      | none => simp [atop, layered, Data.under?, found]
      | some d => simp [atop, layered, Data.under?, found]
    · rw [atop, layered_object]
      exact get?_mergeInto_eq_atop distinct

/-- A value that is no object replaces what is below it. -/
lemma atop_eq_or (plain : ∀ ms, high ≠ some (.object ms)) : atop low high = high.or low := by
  cases high with
  | none => rfl
  | some d =>
    cases low with
    | none => rfl
    | some old =>
      have replaced : mergedOver old d = d := by
        rw [mergedOver]
        exact fun ms same => plain ms (congrArg some same)
      rw [atop, layered, replaced]
      rfl

end Environment
end GridRobot
