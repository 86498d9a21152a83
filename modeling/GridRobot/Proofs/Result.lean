import Mathlib.Data.List.Forall2
import Mathlib.Tactic.Lemma

/-! When a computation that can fail gives a result. -/
namespace GridRobot

variable {ε α β : Type} {x : Except ε α} {b : β}

theorem bind_eq_ok_iff {f : α → Except ε β} :
    x >>= f = .ok b ↔ ∃ a, x = .ok a ∧ f a = .ok b := by
  cases x with
  | error e => simp [bind, Except.bind]
  | ok a => simp [bind, Except.bind]

theorem map_eq_ok_iff {f : α → β} : x.map f = .ok b ↔ ∃ a, x = .ok a ∧ f a = b := by
  cases x with
  | error e => simp [Except.map]
  | ok a => simp [Except.map]

theorem map_eq_bind (f : α → β) (x : Except ε α) : x.map f = x >>= fun a => .ok (f a) := by
  cases x <;> rfl

theorem mapError_eq_ok_iff {ε' : Type} {f : ε → ε'} {a : α} :
    x.mapError f = .ok a ↔ x = .ok a := by
  cases x with
  | error e => exact ⟨nofun, nofun⟩
  | ok a => exact ⟨fun same => Except.ok.inj same ▸ rfl, fun same => Except.ok.inj same ▸ rfl⟩

theorem mapError_map {ε' : Type} (f : α → β) (g : ε → ε') (x : Except ε α) :
    (x.map f).mapError g = (x.mapError g).map f := by
  cases x <;> rfl

theorem bind_eq_error_iff {f : α → Except ε β} {e : ε} :
    x >>= f = .error e ↔ x = .error e ∨ ∃ a, x = .ok a ∧ f a = .error e := by
  cases x with
  | error e' => simp [bind, Except.bind]
  | ok a => simp [bind, Except.bind]

/-- What gives a result for a list gives one for each of its elements, in order. -/
theorem mapM_eq_ok_iff {f : α → Except ε β} {as : List α} {bs : List β} :
    as.mapM f = .ok bs ↔ List.Forall₂ (fun a b => f a = .ok b) as bs := by
  induction as generalizing bs with
  | nil =>
    rw [List.forall₂_nil_left_iff]
    exact ⟨fun done => (Except.ok.inj done).symm, fun none => none ▸ rfl⟩
  | cons a as ih =>
    simp only [List.mapM_cons, bind_eq_ok_iff, ih, List.forall₂_cons_left_iff]
    constructor
    · rintro ⟨b, here, bs', later, together⟩
      exact ⟨b, bs', here, later, (Except.ok.inj together).symm⟩
    · rintro ⟨b, bs', here, later, rfl⟩
      exact ⟨b, here, bs', later, rfl⟩

/-- A fold that fails does so at one place, after all before it went well. -/
theorem foldlM_eq_error_iff {f : β → α → Except ε β} {e : ε} {as : List α} {b : β} :
    as.foldlM f b = .error e ↔
      ∃ before a after c, as = before ++ a :: after ∧ before.foldlM f b = .ok c ∧
        f c a = .error e := by
  induction as generalizing b with
  | nil => simp [pure, Except.pure]
  | cons a as ih =>
    rw [List.foldlM_cons, bind_eq_error_iff]
    constructor
    · rintro (here | ⟨c, went, later⟩)
      · exact ⟨[], a, as, b, rfl, rfl, here⟩
      · obtain ⟨before, a', after, c', rfl, up, fails⟩ := ih.mp later
        refine ⟨a :: before, a', after, c', rfl, ?_, fails⟩
        rw [List.foldlM_cons, went]
        exact up
    · rintro ⟨before, a', after, c, split, up, fails⟩
      cases before with
      | nil =>
        obtain ⟨rfl, rfl⟩ := List.cons.inj split
        obtain rfl : b = c := Except.ok.inj up
        exact .inl fails
      | cons a'' before =>
        obtain ⟨rfl, rfl⟩ := List.cons.inj split
        rw [List.foldlM_cons, bind_eq_ok_iff] at up
        obtain ⟨c', went, up⟩ := up
        exact .inr ⟨c', went, ih.mpr ⟨before, a', after, c, rfl, up, fails⟩⟩

end GridRobot
