import GridRobot.Grid.Heading
import GridRobot.Text.Decimal

/-! Integer grid cells, their order, and single steps between neighbours. -/
namespace GridRobot

@[ext] structure Cell where
  x : Int
  y : Int
  deriving DecidableEq, Repr

namespace Cell

def origin : Cell := ⟨0, 0⟩

/-- The neighbouring cell one step along a heading. -/
def neighbour (c : Cell) (h : Heading) : Cell := ⟨c.x + h.dx, c.y + h.dy⟩

/-- Column first, then row. -/
def before (a b : Cell) : Prop := a.x < b.x ∨ (a.x = b.x ∧ a.y < b.y)

instance (a b : Cell) : Decidable (a.before b) := by unfold before; infer_instance

theorem before_trans {a b c : Cell} (hab : a.before b) (hbc : b.before c) : a.before c := by
  unfold before at *; omega

theorem not_before_self (a : Cell) : ¬ a.before a := by unfold before; omega

theorem before_of_ne {a b : Cell} (h : a ≠ b) (hn : ¬ a.before b) : b.before a := by
  rcases a with ⟨ax, ay⟩; rcases b with ⟨bx, by'⟩
  simp only [before, ne_eq, Cell.mk.injEq] at *
  omega

/-- Both coordinates in decimal, separated by a comma, unless one is too long to be written. -/
def write (c : Cell) : Except OverlongInteger String := do
  let x ← Decimal.write c.x
  let y ← Decimal.write c.y
  return String.ofList (x ++ ',' :: y)

end Cell
end GridRobot
