import GridRobot.Board.Size
import GridRobot.Data.Literal
import GridRobot.Grid.Record

/-! Board sizes asked for in numbers of any kind, which need not be whole. -/
namespace GridRobot

/-- The numbers of columns and rows as they are asked for. -/
structure Measure where
  width : Data
  height : Data

namespace Measure

/-- Why no board has a size. -/
inductive Fault where
  | notOrdered (value : Data)
  | notNumber (value : Data)
  | notPositive (size : Measure)

def Fault.message? : Fault → Option String
  | notPositive m => some (BoardSize.notPositiveText m.width.display m.height.display)
  | _ => none

def isBelowOne : Data → Except Fault Bool
  | .int i => .ok (i < 1)
  | .bool b => .ok !b
  | .float x => .ok x.isBelowOne
  | d => .error (.notOrdered d)

def oneLess : Data → Except Fault Data
  | .int i => .ok (.int (i - 1))
  | .bool b => .ok (.int (if b then 0 else -1))
  | .float x => .ok (.float x.oneLess)
  | d => .error (.notNumber d)

/-- The height is only looked at if there are enough columns. -/
def check (m : Measure) : Except Fault Unit := do
  if ← isBelowOne m.width then throw (.notPositive m)
  if ← isBelowOne m.height then throw (.notPositive m)

/-- The cell across from the origin, which is still to be checked. -/
def corner (m : Measure) : Except Fault Data := do
  let x ← oneLess m.width
  let y ← oneLess m.height
  return .object [("x", x), ("y", y)]

/-- The size itself, if both numbers are whole and positive. -/
def size? (k : Decimal.Counting) (m : Measure) : Option BoardSize :=
  match Schema.integer k m.width, Schema.integer k m.height with
  | .ok w, .ok h => (BoardSize.ofInts w h).toOption
  | _, _ => none

end Measure
end GridRobot
