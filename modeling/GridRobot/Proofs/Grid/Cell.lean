import GridRobot.Grid.Cell
import GridRobot.Proofs.Result
import GridRobot.Proofs.Text.Numeral
import Mathlib.Algebra.Group.Nat.Defs
import Mathlib.Tactic.Lemma

/-! Which cells are too far away to be written. -/
namespace GridRobot.Cell
open Decimal

/-- A place that has too many digits on one of its axes. -/
def IsRemote (c : Cell) : Prop := 10 ^ digitLimit ≤ c.x.natAbs ∨ 10 ^ digitLimit ≤ c.y.natAbs

lemma write_eq_ok_iff {c : Cell} : (∃ t, c.write = .ok t) ↔ ¬ c.IsRemote := by
  have both : (∃ t, c.write = .ok t) ↔
      (∃ xs, Decimal.write c.x = .ok xs) ∧ ∃ ys, Decimal.write c.y = .ok ys := by
    constructor
    · intro h
      obtain ⟨t, written⟩ := h
      obtain ⟨xs, hx, rest⟩ := bind_eq_ok_iff.mp written
      obtain ⟨ys, hy, -⟩ := bind_eq_ok_iff.mp rest
      exact ⟨⟨xs, hx⟩, ys, hy⟩
    · intro h
      obtain ⟨⟨xs, hx⟩, ys, hy⟩ := h
      exact ⟨_, bind_eq_ok_iff.mpr ⟨xs, hx, bind_eq_ok_iff.mpr ⟨ys, hy, rfl⟩⟩⟩
  rw [both, Decimal.write_eq_ok_iff, Decimal.write_eq_ok_iff, IsRemote, not_or, Nat.not_le,
    Nat.not_le]

end GridRobot.Cell
