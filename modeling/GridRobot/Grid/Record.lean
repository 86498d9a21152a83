import GridRobot.Schema.Scalar

/-! Cells, headings and boxes as records. -/
namespace GridRobot

namespace Heading

def table : List (String × Heading) := all.map fun h => (h.name, h)

def ofData : Data → Checked Heading := Schema.choice table

def toData (h : Heading) : Data := .text h.name

end Heading

namespace Turn

def table : List (String × Turn) := [left, right].map fun t => (t.name, t)

def ofData : Data → Checked Turn := Schema.choice table

def toData (t : Turn) : Data := .text t.name

end Turn

namespace Cell

def recordName : String := "Vector"

def ofData (k : Decimal.Counting) (d : Data) : Checked Cell := do
  let ms ← Schema.members recordName d
  (Checked.both (Schema.required ms "x" (Schema.integer k))
    (Schema.required ms "y" (Schema.integer k))).map
    fun p => ⟨p.1, p.2⟩

def toData (c : Cell) : Data := .object [("x", .int c.x), ("y", .int c.y)]

end Cell

namespace Box

def recordName : String := "Square"

/-- The corners must be in order once both are cells. -/
def ofData (k : Decimal.Counting) (d : Data) : Checked Box := do
  let ms ← Schema.members recordName d
  let corners ← Checked.both (Schema.required ms "bottom_left" (Cell.ofData k))
    (Schema.required ms "top_right" (Cell.ofData k))
  match ofCorners corners.1 corners.2 with
  | .ok b => return b
  | .error e => Checked.fail (.invertedBox e)

def toData (b : Box) : Data :=
  .object [("bottom_left", b.low.toData), ("top_right", b.high.toData)]

end Box
end GridRobot
