import GridRobot.Board.Drawing
import GridRobot.Board.Size
import GridRobot.Schema.Scalar

/-! The sections of a configuration, each with the keys that are given and no others. -/
namespace GridRobot

namespace Extent

/-- The number of columns and rows must be at least this. -/
def least : Int := 1

def ofData (k : Decimal.Counting) (d : Data) : Checked Extent := do
  let n ← Schema.integer k d
  if h : 1 ≤ n then return ⟨n, h⟩ else Checked.fail (.below least)

def toData (e : Extent) : Data := .int e.val

end Extent

/-- The parts of a board size that are given; the rest is standard. -/
structure PartialSize where
  width : Option Extent
  height : Option Extent
  deriving DecidableEq, Repr

namespace PartialSize

def recordName : String := "BoardConfig"

def ofData (k : Decimal.Counting) (d : Data) : Checked PartialSize := do
  let ms ← Schema.members recordName d
  (Checked.both (Schema.optional ms "width" (Extent.ofData k))
    (Schema.optional ms "height" (Extent.ofData k))).map fun p => ⟨p.1, p.2⟩

def complete (s : PartialSize) : BoardSize :=
  ⟨s.width.getD BoardSize.standard.width, s.height.getD BoardSize.standard.height⟩

/-- Only what is given is written. -/
def toData (s : PartialSize) : Data :=
  .object (((s.width.map fun e => ("width", Extent.toData e)).toList) ++
    ((s.height.map fun e => ("height", Extent.toData e)).toList))

end PartialSize

namespace BoardSize

def toPartial (s : BoardSize) : PartialSize := ⟨some s.width, some s.height⟩

def toData (s : BoardSize) : Data := s.toPartial.toData

end BoardSize

/-- The glyphs that are given; the rest is standard. -/
structure PartialGlyphs where
  blank : Option Char
  obstacle : Option Char
  deriving DecidableEq, Repr

namespace PartialGlyphs

def recordName : String := "MapGlyphs"

def ofData (d : Data) : Checked PartialGlyphs := do
  let ms ← Schema.members recordName d
  (Checked.both (Schema.optional ms "empty" Schema.character)
    (Schema.optional ms "obstacle" Schema.character)).map fun p => ⟨p.1, p.2⟩

def complete (g : PartialGlyphs) : Glyphs :=
  ⟨g.blank.getD Glyphs.standard.blank, g.obstacle.getD Glyphs.standard.obstacle⟩

/-- Only what is given is written. -/
def toData (g : PartialGlyphs) : Data :=
  .object (((g.blank.map fun c => ("empty", Data.text (String.singleton c))).toList) ++
    ((g.obstacle.map fun c => ("obstacle", Data.text (String.singleton c))).toList))

end PartialGlyphs

namespace Glyphs

def toPartial (g : Glyphs) : PartialGlyphs := ⟨some g.blank, some g.obstacle⟩

def toData (g : Glyphs) : Data := g.toPartial.toData

end Glyphs
end GridRobot
