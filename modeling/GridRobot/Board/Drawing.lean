import GridRobot.Board
import GridRobot.Command

/-! What a board looks like: the position report, the map, and the answer to a command. -/
namespace GridRobot

/-- The characters drawn for cells without a robot. -/
structure Glyphs where
  blank : Char
  obstacle : Char
  deriving DecidableEq, Repr

def Glyphs.standard : Glyphs := ⟨'0', 'X'⟩

namespace Robot

/-- The cell and the heading in capitals, separated by commas. -/
def report (r : Robot) : Except OverlongInteger String := do
  let cell ← r.location.write
  return cell ++ "," ++ String.ofList (r.heading.name.toList.map Char.toUpper)

end Robot

namespace Board

/-- The robot beats an obstacle, and an obstacle beats an empty cell. -/
def glyphAt (b : Board) (g : Glyphs) (c : Cell) : Char :=
  match b.robot with
  | some r => if r.location = c then r.heading.glyph else background
  | none => background
where
  background : Char := if c ∈ b.obstacles then g.obstacle else g.blank

/-- The cells of a row from west to east. -/
def row (b : Board) (g : Glyphs) (y : Int) : List Char :=
  (List.range b.bounds.width).map fun (j : Nat) => b.glyphAt g ⟨b.bounds.low.x + j, y⟩

/-- The rows from north to south, one glyph for each cell. -/
def rows (b : Board) (g : Glyphs) : List (List Char) :=
  (List.range b.bounds.height).map fun (i : Nat) => b.row g (b.bounds.high.y - i)

/-- The rows separated by newlines, with none after the last. -/
def drawing (b : Board) (g : Glyphs) : String :=
  String.ofList (List.intercalate ['\n'] (b.rows g))

/-- The text a command answers with on a board, if it has an answer. -/
def answer (b : Board) (c : Command) (g : Glyphs) : Except OverlongInteger (Option String) :=
  match c, b.robot with
  | .report, some r => r.report.map some
  | .map, _ => .ok (some (b.drawing g))
  | _, _ => .ok none

end Board
end GridRobot
