import GridRobot.Proofs.Result
import GridRobot.Schema.Checked
import Mathlib.Tactic.Lemma

/-! Checks that pass: of one part of a value, of a list, and of a whole value. -/
namespace GridRobot

variable {α : Type} {ms : Members} {key : String} {check : Data → Checked α} {d : Data} {a : α}

namespace Checked

lemma within_ok (step : PathStep) (a : α) : within step (.ok a) = .ok a := rfl

lemma titled_eq_ok_iff {title : String} {x : Checked α} : x.titled title = .ok a ↔ x = .ok a := by
  cases x with
  | error is => simp [titled]
  | ok b => simp [titled]

lemma titled_map {β : Type} (f : α → β) (title : String) (x : Checked α) :
    titled title (x.map f) = (titled title x).map f := by
  cases x <;> rfl

lemma within_eq_ok_iff {step : PathStep} {x : Checked α} : within step x = .ok a ↔ x = .ok a := by
  cases x with
  | error is => simp [within]
  | ok b => simp [within]

/-- No complaint about the second part is lost. -/
lemma both_of_error {β : Type} {js : List Issue} (x : Checked β) {y : Checked α}
    (wrong : y = .error js) : ∃ is, both x y = .error is ∧ js ⊆ is := by
  subst wrong
  cases x with
  | error is => exact ⟨is ++ js, rfl, List.subset_append_right is js⟩
  | ok b => exact ⟨js, rfl, List.Subset.refl js⟩

/-- What passes on its own passes in a list, wherever it stands there. -/
theorem items_map (write : α → Data) (passes : ∀ a, check (write a) = .ok a) (i : Nat)
    (as : List α) : items check i (as.map write) = .ok as := by
  induction as generalizing i with
  | nil => rfl
  | cons a as ih =>
    rw [List.map_cons, items, passes, ih]
    rfl

end Checked

namespace Schema

lemma required_of_get? (found : ms.get? key = some d) (checked : check d = .ok a) :
    required ms key check = .ok a := by
  rw [required, found]
  simp only [checked, Checked.within_ok]

lemma withDefault_of_get? {default : α} (found : ms.get? key = some d)
    (checked : check d = .ok a) : withDefault ms key default check = .ok a := by
  rw [withDefault, optional, found]
  simp only [checked]
  rfl

/-- What is given passes its check, and what is not given is left out. -/
def Reads (check : Data → Checked α) : Option Data → Option α → Prop :=
  Option.Rel fun d a => check d = .ok a

lemma Reads.of_some {d : Data} {o : Option α} (h : Reads check (some d) o) :
    ∃ a, o = some a ∧ check d = .ok a := by
  cases h with
  | some checked => exact ⟨_, rfl, checked⟩

lemma exists_reads {given : Option Data} (acceptable : ∀ d ∈ given, ∃ a, check d = .ok a) :
    ∃ o, Reads check given o := by
  cases given with
  | none => exact ⟨none, .none⟩
  | some d =>
    obtain ⟨a, checked⟩ := acceptable d rfl
    exact ⟨some a, .some checked⟩

/-- What was checked passes the check again once it is written. -/
lemma reads_map {write : α → Data} (passes : ∀ a, check (write a) = .ok a) (o : Option α) :
    Reads check (o.map write) o := by
  cases o with
  | none => exact .none
  | some a => exact .some (passes a)

theorem optional_eq_ok_iff {o : Option α} :
    optional ms key check = .ok o ↔ Reads check (ms.get? key) o := by
  rw [optional]
  cases ms.get? key with
  | none => exact ⟨fun same => Except.ok.inj same ▸ .none, fun h => by cases h; rfl⟩
  | some d =>
    rw [Checked.within_eq_ok_iff, map_eq_ok_iff]
    constructor
    · rintro ⟨a, checked, rfl⟩
      exact .some checked
    · intro h
      obtain ⟨a, rfl, checked⟩ := h.of_some
      exact ⟨a, checked, rfl⟩

lemma withDefault_of_reads {o : Option α} (default : α) (h : Reads check (ms.get? key) o) :
    withDefault ms key default check = .ok (o.getD default) := by
  rw [withDefault, optional_eq_ok_iff.mpr h]
  rfl

end Schema
end GridRobot
