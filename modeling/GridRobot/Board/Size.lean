import GridRobot.Board

/-! How large a board is. -/
namespace GridRobot

/-- A number of columns or rows; there is at least one. -/
abbrev Extent := { n : Int // 1 ≤ n }

structure BoardSize where
  width : Extent
  height : Extent
  deriving DecidableEq, Repr

namespace BoardSize

/-- Five columns and five rows. -/
def standard : BoardSize := ⟨⟨5, by decide⟩, ⟨5, by decide⟩⟩

/-- A size that no board can have. -/
structure NotPositive where
  width : Int
  height : Int
  deriving DecidableEq, Repr

/-- What is said of a size that is written in this way. -/
def notPositiveText (width height : List Char) : String :=
  "board size must be positive, got " ++ String.ofList (width ++ 'x' :: height)

/-- The message names both extents, unless one is too long to be written. -/
def NotPositive.message (e : NotPositive) : String :=
  match Decimal.write e.width, Decimal.write e.height with
  | .ok w, .ok h => notPositiveText w h
  | .error f, _ => f.message
  | .ok _, .error f => f.message

def ofInts (width height : Int) : Except NotPositive BoardSize :=
  if h : 1 ≤ width ∧ 1 ≤ height then .ok ⟨⟨width, h.1⟩, ⟨height, h.2⟩⟩ else .error ⟨width, height⟩

/-- The empty board of a size, anchored at the origin. -/
def board (s : BoardSize) : Board := Board.emptyOfSize s.width.val s.height.val

end BoardSize
end GridRobot
