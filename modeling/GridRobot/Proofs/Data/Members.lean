import GridRobot.Proofs.Data.Plain
import Mathlib.Data.List.Basic
import Mathlib.Tactic.Lemma

/-! Members after one of them is set: its name has the new value, every other name has what it had,
and distinct names stay distinct. -/
namespace GridRobot

/-- What stands under a key, if the value is an object. -/
def Data.under? (key : String) : Data → Option Data
  | .object ms => Members.get? ms key
  | _ => none

namespace Members

variable {ms : Members} {key other : String} {value : Data}

lemma has_eq_true_iff : ms.has key = true ↔ key ∈ ms.map Prod.fst := by
  rw [has, List.any_eq_true, List.mem_map]
  constructor
  · intro given
    obtain ⟨m, hm, same⟩ := given
    exact ⟨m, hm, beq_iff_eq.mp same⟩
  · intro given
    obtain ⟨m, hm, rfl⟩ := given
    exact ⟨m, hm, beq_self_eq_true m.1⟩

lemma set_of_mem (present : key ∈ ms.map Prod.fst) :
    ms.set key value = ms.map fun m => if m.1 == key then (key, value) else m := by
  rw [set, has_eq_true_iff.mpr present, if_pos rfl]

lemma get?_cons (m : String × Data) (ms : Members) :
    get? (m :: ms) key = if m.1 = key then some m.2 else ms.get? key := by
  by_cases same : m.1 = key <;> simp [get?, same]

lemma get?_append (ms ns : Members) : get? (ms ++ ns) key = (ms.get? key).or (ns.get? key) := by
  rw [get?, List.find?_append, Option.map_or]
  rfl

lemma get?_eq_none_iff : ms.get? key = none ↔ key ∉ ms.map Prod.fst := by
  rw [← has_eq_true_iff, Bool.not_eq_true, has, List.any_eq_false, get?, Option.map_eq_none_iff,
    List.find?_eq_none]

lemma get?_toList {α : Type} (write : α → Data) (a : Option α) :
    get? ((a.map fun a => (key, write a)).toList) other =
      if key = other then a.map write else none := by
  cases a with
  | none => exact (ite_self none).symm
  | some a => exact get?_cons (key, write a) []

/-- Where the names that are replaced have the new value, and the others the old one. -/
lemma get?_replaced (ms : Members) :
    get? (ms.map fun m => if m.1 == key then (key, value) else m) other =
      if other = key then (ms.get? key).map fun _ => value else ms.get? other := by
  induction ms with
  | nil => simp [get?]
  | cons m ms ih =>
    rw [List.map_cons, get?_cons, ih, get?_cons, get?_cons]
    by_cases here : m.1 = key
    · by_cases asked : other = key
      · simp [here, asked]
      · simp [here, asked, Ne.symm asked]
    · by_cases asked : other = key
      · simp [here, asked]
      · simp [here, asked]

theorem get?_set (ms : Members) :
    (ms.set key value).get? other = if other = key then some value else ms.get? other := by
  by_cases present : key ∈ ms.map Prod.fst
  · obtain ⟨old, found⟩ : ∃ old, ms.get? key = some old :=
      Option.ne_none_iff_exists'.mp fun absent => get?_eq_none_iff.mp absent present
    rw [set_of_mem present, get?_replaced, found]
    rfl
  · rw [set_of_not_mem present, get?_append]
    by_cases asked : other = key
    · rw [asked, get?_eq_none_iff.mpr present, if_pos rfl, get?_cons, if_pos rfl]
      rfl
    · rw [if_neg asked, get?_cons, if_neg (Ne.symm asked)]
      cases ms.get? other <;> rfl

theorem nodup_set (distinct : (ms.map Prod.fst).Nodup) (key : String) (value : Data) :
    ((ms.set key value).map Prod.fst).Nodup := by
  by_cases present : key ∈ ms.map Prod.fst
  · have names : (ms.set key value).map Prod.fst = ms.map Prod.fst := by
      rw [set_of_mem present, List.map_map]
      refine List.map_congr_left fun m _ => ?_
      by_cases same : m.1 = key <;> simp [same]
    rwa [names]
  · rw [set_of_not_mem present, List.map_append, List.nodup_append]
    refine ⟨distinct, by simp, fun k hk l hl same => ?_⟩
    obtain rfl := List.mem_singleton.mp hl
    exact present (same ▸ hk)

lemma mem_names_set :
    other ∈ (ms.set key value).map Prod.fst ↔ other = key ∨ other ∈ ms.map Prod.fst := by
  rw [← not_iff_not, ← get?_eq_none_iff, get?_set, not_or, ← get?_eq_none_iff]
  by_cases asked : other = key
  · simp [asked]
  · simp [asked]

lemma nodup_foldl_set {done : Members} (distinct : (done.map Prod.fst).Nodup) (ms : Members) :
    ((ms.foldl (fun acc m => set acc m.1 m.2) done).map Prod.fst).Nodup := by
  induction ms generalizing done with
  | nil => exact distinct
  | cons m ms ih => exact ih (nodup_set distinct m.1 m.2)

theorem nodup_ofList (ms : List (String × Data)) : ((ofList ms).map Prod.fst).Nodup := by
  have start : (([] : Members).map Prod.fst).Nodup := List.nodup_nil
  exact nodup_foldl_set start ms

lemma get?_foldl_set (done ms : Members) :
    get? (ms.foldl (fun acc m => set acc m.1 m.2) done) key =
      (get? ms.reverse key).or (get? done key) := by
  induction ms generalizing done with
  | nil => rfl
  | cons m ms ih =>
    rw [List.foldl_cons, ih, get?_set, List.reverse_cons, get?_append, get?_cons]
    by_cases here : m.1 = key
    · rw [if_pos here.symm, if_pos here]
      cases get? ms.reverse key <;> rfl
    · rw [if_neg (Ne.symm here), if_neg here]
      cases get? ms.reverse key <;> rfl

/-- The last value given for a name is the one that is kept. -/
theorem get?_ofList (ms : List (String × Data)) : (ofList ms).get? key = get? ms.reverse key := by
  rw [ofList, get?_foldl_set]
  cases get? ms.reverse key <;> rfl

/-- Where names are distinct the first of them is the last. -/
lemma get?_reverse (distinct : (ms.map Prod.fst).Nodup) : get? ms.reverse key = ms.get? key := by
  rw [← get?_ofList, ofList_of_nodup distinct]

end Members
end GridRobot
