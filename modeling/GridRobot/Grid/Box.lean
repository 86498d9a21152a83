import GridRobot.Grid.Cell

/-! Axis-parallel boxes of cells with both corners included. -/
namespace GridRobot

/-- The low corner never exceeds the high one on either axis. -/
structure Box where
  low : Cell
  high : Cell
  ordered : low.x ≤ high.x ∧ low.y ≤ high.y
  deriving DecidableEq, Repr

namespace Box

/-- Corners given to a box in the wrong order. -/
structure Inverted where
  low : Cell
  high : Cell
  deriving DecidableEq, Repr

/-- The message names both corners, unless one is too long to be written. -/
def Inverted.message (e : Inverted) : String :=
  match e.low.write, e.high.write with
  | .ok low, .ok high => "bottom_left (" ++ low ++ ") must not exceed top_right (" ++ high ++ ")"
  | .error f, _ => f.message
  | .ok _, .error f => f.message

/-- Accepts corners only if they are already in order. -/
def ofCorners (low high : Cell) : Except Inverted Box :=
  if h : low.x ≤ high.x ∧ low.y ≤ high.y then .ok ⟨low, high, h⟩ else .error ⟨low, high⟩

/-- The box spanned by two opposite corners in any order. -/
def between (a b : Cell) : Box where
  low := ⟨min a.x b.x, min a.y b.y⟩
  high := ⟨max a.x b.x, max a.y b.y⟩
  ordered := by simp only; omega

def Contains (b : Box) (c : Cell) : Prop :=
  (b.low.x ≤ c.x ∧ c.x ≤ b.high.x) ∧ (b.low.y ≤ c.y ∧ c.y ≤ b.high.y)

instance (b : Box) (c : Cell) : Decidable (b.Contains c) := by unfold Contains; infer_instance

/-- The number of columns. -/
def width (b : Box) : Nat := (b.high.x - b.low.x + 1).toNat

/-- The number of rows. -/
def height (b : Box) : Nat := (b.high.y - b.low.y + 1).toNat

end Box
end GridRobot
