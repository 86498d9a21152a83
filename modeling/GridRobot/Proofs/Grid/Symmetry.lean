import GridRobot.Proofs.Grid.Box
import GridRobot.Proofs.Grid.CellSet
import Mathlib.Tactic.Lemma

/-! The symmetries of the grid: steps, turns and boxes look the same after a shift, a quarter turn or
a reflection, and after any number of these. -/
namespace GridRobot

/-- A shift, the quarter turn to the right about the origin, the reflection that swaps east and
west, or one symmetry after another. -/
inductive Symmetry where
  | shift (dx dy : Int)
  | quarterTurn
  | mirror
  | compose (second first : Symmetry)
  deriving DecidableEq, Repr

namespace Symmetry

def cell : Symmetry → Cell → Cell
  | shift dx dy, c => ⟨c.x + dx, c.y + dy⟩
  | quarterTurn, c => ⟨c.y, -c.x⟩
  | mirror, c => ⟨-c.x, c.y⟩
  | compose g f, c => g.cell (f.cell c)

def heading : Symmetry → Heading → Heading
  | shift _ _, h => h
  | quarterTurn, h => h.turned .right
  | mirror, .east => .west
  | mirror, .west => .east
  | mirror, h => h
  | compose g f, h => g.heading (f.heading h)

/-- Only a reflection tells left from right. -/
def turn : Symmetry → Turn → Turn
  | shift _ _, t => t
  | quarterTurn, t => t
  | mirror, t => t.opposite
  | compose g f, t => g.turn (f.turn t)

/-- The box between the images of the corners, which may have changed places. -/
def box (g : Symmetry) (b : Box) : Box := .between (g.cell b.low) (g.cell b.high)

def cells (g : Symmetry) (s : CellSet) : CellSet := .ofList (s.cells.map g.cell)

theorem cell_injective (g : Symmetry) : ∀ {c d : Cell}, g.cell c = g.cell d → c = d := by
  induction g with
  | compose g f second first => exact fun same => first (second same)
  | shift dx dy | quarterTurn | mirror =>
    intro c d same
    simp only [cell, Cell.mk.injEq] at same
    ext <;> omega

theorem cell_neighbour (g : Symmetry) (c : Cell) (h : Heading) :
    g.cell (c.neighbour h) = (g.cell c).neighbour (g.heading h) := by
  induction g generalizing c h with
  | compose g f second first => simp only [cell, heading, first, second]
  | shift dx dy | quarterTurn | mirror =>
    cases h <;> ext <;> simp only [cell, heading, Cell.neighbour, Heading.turned, Heading.dx,
      Heading.dy] <;> omega

theorem heading_turned (g : Symmetry) (h : Heading) (t : Turn) :
    g.heading (h.turned t) = (g.heading h).turned (g.turn t) := by
  induction g generalizing h t with
  | compose g f second first => simp only [heading, turn, first, second]
  | shift dx dy | quarterTurn | mirror => cases h <;> cases t <;> rfl

/-- What lies between two cells is mapped to what lies between their images. -/
theorem between_contains_cell (g : Symmetry) (a b c : Cell) :
    (Box.between (g.cell a) (g.cell b)).Contains (g.cell c) ↔ (Box.between a b).Contains c := by
  induction g generalizing a b c with
  | compose g f second first => exact (second _ _ _).trans (first _ _ _)
  | shift dx dy | quarterTurn | mirror =>
    simp only [cell, Box.between, Box.Contains]
    omega

theorem box_contains_cell (g : Symmetry) (b : Box) (c : Cell) :
    (g.box b).Contains (g.cell c) ↔ b.Contains c := by
  rw [box, between_contains_cell, Box.between_corners]

lemma mem_cells {g : Symmetry} {s : CellSet} {c : Cell} :
    c ∈ g.cells s ↔ ∃ d ∈ s, g.cell d = c := by
  rw [cells, CellSet.mem_ofList, List.mem_map]
  rfl

@[simp] theorem cell_mem_cells {g : Symmetry} {s : CellSet} {c : Cell} :
    g.cell c ∈ g.cells s ↔ c ∈ s := by
  rw [mem_cells]
  constructor
  · intro given
    obtain ⟨d, hd, same⟩ := given
    exact g.cell_injective same ▸ hd
  · exact fun hc => ⟨c, hc, rfl⟩

theorem cells_insert (g : Symmetry) (s : CellSet) (c : Cell) :
    g.cells (s.insert c) = (g.cells s).insert (g.cell c) := by
  ext d
  simp only [mem_cells, CellSet.mem_insert]
  constructor
  · intro given
    obtain ⟨e, rfl | he, rfl⟩ := given
    · exact .inl rfl
    · exact .inr ⟨e, he, rfl⟩
  · intro given
    rcases given with rfl | ⟨e, he, rfl⟩
    · exact ⟨c, .inl rfl, rfl⟩
    · exact ⟨e, .inr he, rfl⟩

end Symmetry
end GridRobot
