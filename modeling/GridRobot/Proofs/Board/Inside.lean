import GridRobot.Proofs.Board.Drawing
import GridRobot.Proofs.Board.Update
import Mathlib.Tactic.Lemma

/-! Boards that are the same inside their bounds: commands keep them so, they are drawn alike, and where
empty cells, obstacles and robots can be told apart, no other valid boards are drawn alike. -/
namespace GridRobot

lemma Heading.glyph_injective {h d : Heading} (same : h.glyph = d.glyph) : h = d := by
  revert same
  cases h <;> cases d <;> decide

/-- An empty cell, an obstacle and a robot are never drawn alike. -/
structure Glyphs.Distinct (g : Glyphs) : Prop where
  background : g.blank ≠ g.obstacle
  blank : ∀ h : Heading, h.glyph ≠ g.blank
  obstacle : ∀ h : Heading, h.glyph ≠ g.obstacle

/-- Every cell of a box has a column and a row, counted from the north-western corner. -/
lemma Box.exists_index {b : Box} {p : Cell} (inside : b.Contains p) :
    ∃ i j : Nat, i < b.height ∧ j < b.width ∧ p = ⟨b.low.x + j, b.high.y - i⟩ := by
  obtain ⟨⟨west, east⟩, south, north⟩ := inside
  have width := b.width_eq
  have height := b.height_eq
  refine ⟨(b.high.y - p.y).toNat, (p.x - b.low.x).toNat, by omega, by omega, ?_⟩
  ext <;> simp only <;> omega

namespace Board

/-- Boards that differ in nothing but the obstacles outside their bounds. -/
structure SameInside (b c : Board) : Prop where
  bounds : c.bounds = b.bounds
  robot : c.robot = b.robot
  obstacles : ∀ p, b.bounds.Contains p → (p ∈ c.obstacles ↔ p ∈ b.obstacles)

namespace SameInside

variable {b c : Board}

lemma withRobot (same : b.SameInside c) (r : Option Robot) :
    (b.withRobot r).SameInside (c.withRobot r) :=
  ⟨same.bounds, rfl, same.obstacles⟩

lemma withObstacle (same : b.SameInside c) (p : Cell) :
    (b.withObstacle p).SameInside (c.withObstacle p) where
  bounds := same.bounds
  robot := same.robot
  obstacles q inside := by
    have old := same.obstacles q inside
    simp only [Board.withObstacle, CellSet.mem_insert, old]

/-- A new obstacle lands on the same cell of both boards, inside or outside. -/
theorem after (same : b.SameInside c) (k : Command) : (b.after k).SameInside (c.after k) := by
  cases present : b.robot with
  | none =>
    cases k with
    | place p h => exact same.withRobot _
    | move | rotate | report | placeObject | map =>
      simp only [Board.after, same.robot, present]
      exact same
  | some r =>
    cases k with
    | place p h => exact same.withRobot _
    | move | rotate =>
      simp only [Board.after, same.robot, present]
      exact same.withRobot _
    | report | map =>
      simp only [Board.after, same.robot, present]
      exact same
    | placeObject =>
      simp only [Board.after, same.robot, present]
      exact same.withObstacle _

/-- A robot outside is refused for its place, so no obstacle there is asked about. -/
theorem valid_iff (same : b.SameInside c) : c.Valid ↔ b.Valid := by
  unfold Valid
  rw [same.robot, same.bounds]
  refine forall₂_congr fun r _ => and_congr_right fun inside => ?_
  rw [same.obstacles _ inside]

lemma glyphAt (same : b.SameInside c) (g : Glyphs) {p : Cell} (inside : b.bounds.Contains p) :
    c.glyphAt g p = b.glyphAt g p := by
  have background : glyphAt.background c g p = glyphAt.background b g p := by
    simp only [glyphAt.background, same.obstacles p inside]
  simp only [Board.glyphAt, same.robot, background]

/-- Only cells inside the bounds are drawn. -/
theorem drawing (same : b.SameInside c) (g : Glyphs) : c.drawing g = b.drawing g :=
  drawing_congr same.bounds fun _ inside => same.glyphAt g inside

theorem answer (same : b.SameInside c) (k : Command) (g : Glyphs) :
    c.answer k g = b.answer k g := by
  simp only [Board.answer, same.robot, same.drawing]

end SameInside

variable {b c : Board} {g : Glyphs} {p : Cell} {r : Robot}

/-- Drawings of one size that are the same are the same in every cell. -/
lemma glyphAt_of_drawing (bounds : c.bounds = b.bounds) (same : c.drawing g = b.drawing g)
    (inside : b.bounds.Contains p) : c.glyphAt g p = b.glyphAt g p := by
  obtain ⟨i, j, row, column, rfl⟩ := Box.exists_index inside
  have first := getElem?_drawing_cell b g row column
  have second := getElem?_drawing_cell c g (bounds ▸ row) (bounds ▸ column)
  rw [bounds, same, first] at second
  exact (Option.some.inj second).symm

lemma glyphAt_robot (present : b.robot = some r) : b.glyphAt g r.location = r.heading.glyph := by
  simp only [glyphAt, present, if_true]

/-- An arrow is drawn for nothing but a robot that stands there with that heading. -/
lemma Shows.robot_eq {a : Char} {h : Heading} (shown : b.Shows g p a) (distinct : g.Distinct)
    (arrow : a = h.glyph) : b.robot = some ⟨p, h⟩ := by
  cases shown with
  | @robot r present here =>
    obtain rfl := Heading.glyph_injective arrow
    rw [present, ← here]
  | obstacle away taken => exact absurd arrow.symm (distinct.obstacle h)
  | blank away free => exact absurd arrow.symm (distinct.blank h)

/-- The robot of a valid board does not hide an obstacle. -/
lemma Shows.eq_obstacle_iff {a : Char} (shown : b.Shows g p a) (distinct : g.Distinct)
    (valid : b.Valid) : a = g.obstacle ↔ p ∈ b.obstacles := by
  cases shown with
  | @robot r present here =>
    have free : p ∉ b.obstacles := here ▸ (valid r present).2
    exact iff_of_false (distinct.obstacle _) free
  | obstacle away taken => exact iff_of_true rfl taken
  | blank away free => exact iff_of_false distinct.background free

/-- A robot that is drawn on one board stands on every other board with that drawing. -/
lemma robot_of_drawing (distinct : g.Distinct) (valid : b.Valid) (bounds : c.bounds = b.bounds)
    (same : c.drawing g = b.drawing g) (present : b.robot = some r) : c.robot = some r := by
  have inside : b.bounds.Contains r.location := (valid r present).1
  have arrow := glyphAt_of_drawing bounds same inside
  rw [glyphAt_robot present] at arrow
  exact (c.shows_glyphAt g r.location).robot_eq distinct arrow

/-- Valid boards with the same bounds are drawn alike exactly if they have the same robot and the same
obstacles inside the bounds. -/
theorem drawing_eq_drawing_iff (g : Glyphs) (distinct : g.Distinct) (b c : Board) (valid : b.Valid)
    (valid' : c.Valid) (bounds : c.bounds = b.bounds) :
    c.drawing g = b.drawing g ↔
      c.robot = b.robot ∧ ∀ p, b.bounds.Contains p → (p ∈ c.obstacles ↔ p ∈ b.obstacles) := by
  constructor
  · intro same
    constructor
    · ext r
      constructor
      · exact robot_of_drawing distinct valid' bounds.symm same.symm
      · exact robot_of_drawing distinct valid bounds same
    · intro p inside
      have shown := c.shows_glyphAt g p
      rw [glyphAt_of_drawing bounds same inside] at shown
      rw [← shown.eq_obstacle_iff distinct valid']
      exact (b.shows_glyphAt g p).eq_obstacle_iff distinct valid
  · intro given
    have alike : b.SameInside c := ⟨bounds, given.1, given.2⟩
    exact alike.drawing g

/-- An obstacle outside is not seen, also where empty cells are drawn as newlines, but it is seen which
way the robot faces and that an obstacle inside is missing. -/
theorem drawing_eq_drawing_iff_with_newlines :
    let g : Glyphs := ⟨'\n', '#'⟩
    let b : Board := ⟨.between ⟨-1, 0⟩ ⟨1, 1⟩, some ⟨⟨0, 1⟩, .west⟩, .ofList [⟨1, 0⟩]⟩
    let c : Board := b.withObstacle ⟨2, 0⟩
    let d : Board := b.withRobot (some ⟨⟨0, 1⟩, .north⟩)
    let e : Board := ⟨b.bounds, b.robot, .ofList [⟨2, 0⟩]⟩
    g.Distinct ∧ (b.Valid ∧ c.Valid ∧ d.Valid ∧ e.Valid) ∧
      (c.bounds = b.bounds ∧ d.bounds = b.bounds ∧ e.bounds = b.bounds) ∧
      c.drawing g = b.drawing g ∧ d.drawing g ≠ b.drawing g ∧ e.drawing g ≠ b.drawing g := by
  intro g b c d e
  have distinct : g.Distinct :=
    ⟨by decide, fun h => by cases h <;> decide, fun h => by cases h <;> decide⟩
  have valid : b.Valid ∧ c.Valid ∧ d.Valid ∧ e.Valid := by decide
  refine ⟨distinct, valid, ⟨rfl, rfl, rfl⟩, ?_, fun same => ?_, fun same => ?_⟩
  · refine (drawing_eq_drawing_iff g distinct b c valid.1 valid.2.1 rfl).mpr ⟨rfl, fun p inside => ?_⟩
    have elsewhere : p ≠ ⟨2, 0⟩ := by
      rintro rfl
      exact absurd inside (by decide)
    exact CellSet.mem_insert.trans (or_iff_right elsewhere)
  · have told := (drawing_eq_drawing_iff g distinct b d valid.1 valid.2.2.1 rfl).mp same
    exact absurd told.1 (by decide)
  · have told := (drawing_eq_drawing_iff g distinct b e valid.1 valid.2.2.2 rfl).mp same
    exact absurd ((told.2 ⟨1, 0⟩ (by decide)).mpr (by decide)) (by decide)

end Board
end GridRobot
