import GridRobot.Proofs.Data.Members
import GridRobot.Settings.Environment
import Mathlib.Tactic.Lemma

/-! Merging members key by key: what every name has afterwards. -/
namespace GridRobot
namespace Environment

variable {low ms : Members} {key : String}

/-- A value put over the one below it, if there is one. -/
def layered : Option Data → Data → Data
  | some old, d => mergedOver old d
  | none, d => d

lemma mergeInto_cons (m : String × Data) (ms : Members) :
    mergeInto low (m :: ms) = mergeInto (low.set m.1 (layered (low.get? m.1) m.2)) ms := by
  rw [mergeInto]
  cases low.get? m.1 <;> rfl

lemma layered_bool (old : Option Data) (b : Bool) : layered old (.bool b) = .bool b := by
  cases old with
  | none => rfl
  | some low => rw [layered, mergedOver]; exact fun _ same => nomatch same

/-- A name that is not merged in keeps its value, and any other has the values put together. -/
theorem get?_mergeInto (distinct : (ms.map Prod.fst).Nodup) :
    (mergeInto low ms).get? key =
      match ms.get? key with
      | some d => some (layered (low.get? key) d)
      | none => low.get? key := by
  induction ms generalizing low with
  | nil => rw [mergeInto]; rfl
  | cons m ms ih =>
    obtain ⟨absent, rest⟩ := List.nodup_cons.mp distinct
    rw [mergeInto_cons, ih rest, Members.get?_set, Members.get?_cons]
    by_cases here : m.1 = key
    · subst here
      rw [Members.get?_eq_none_iff.mpr absent, if_pos rfl, if_pos rfl]
    · rw [if_neg here, if_neg (Ne.symm here)]

/-- Nothing is left of what stands below a truth value. -/
lemma get?_mergeInto_bool {b : Bool} (distinct : (ms.map Prod.fst).Nodup)
    (given : ms.get? key = some (.bool b)) : (mergeInto low ms).get? key = some (.bool b) := by
  rw [get?_mergeInto distinct, given]
  exact congrArg some (layered_bool _ b)

theorem nodup_mergeInto (distinct : (low.map Prod.fst).Nodup) (ms : Members) :
    ((mergeInto low ms).map Prod.fst).Nodup := by
  induction ms generalizing low with
  | nil => rwa [mergeInto]
  | cons m ms ih =>
    rw [mergeInto_cons]
    exact ih (Members.nodup_set distinct _ _)

lemma mem_names_mergeInto :
    key ∈ (mergeInto low ms).map Prod.fst ↔ key ∈ low.map Prod.fst ∨ key ∈ ms.map Prod.fst := by
  induction ms generalizing low with
  | nil => simp [mergeInto]
  | cons m ms ih =>
    rw [mergeInto_cons, ih, Members.mem_names_set, List.map_cons, List.mem_cons]
    tauto

end Environment
end GridRobot
