import GridRobot.Board.Drawing
import GridRobot.Proofs.Text.Joined

/-! Where each cell of a board is found in its drawing, and that nothing else is drawn. -/
namespace GridRobot

/-- In a list put together from pieces of one length every piece begins at a multiple of it. -/
lemma getElem?_flatten_of_length {α : Type} {xs : List (List α)} {n : Nat}
    (even : ∀ x ∈ xs, x.length = n) {i j : Nat} {x : List α} (given : xs[i]? = some x)
    (hj : j < n) : xs.flatten[i * n + j]? = x[j]? := by
  induction xs generalizing i with
  | nil => cases given
  | cons y ys ih =>
    obtain ⟨first, rest⟩ := List.forall_mem_cons.mp even
    rw [List.flatten_cons]
    cases i with
    | zero =>
      cases given
      rw [Nat.zero_mul, Nat.zero_add]
      exact List.getElem?_append_left (by omega)
    | succ i =>
      have later : (i + 1) * n + j - y.length = i * n + j := by
        rw [Nat.succ_mul]
        omega
      have behind : y.length ≤ (i + 1) * n + j := by
        rw [Nat.succ_mul]
        omega
      rw [List.getElem?_append_right behind, later]
      exact ih rest given

lemma length_flatten_of_length {α : Type} {xs : List (List α)} {n : Nat}
    (even : ∀ x ∈ xs, x.length = n) : xs.flatten.length = xs.length * n := by
  induction xs with
  | nil => simp
  | cons y ys ih =>
    obtain ⟨first, rest⟩ := List.forall_mem_cons.mp even
    rw [List.flatten_cons, List.length_append, first, ih rest, List.length_cons, Nat.succ_mul,
      Nat.add_comm]

namespace Box

variable {b : Box}

lemma width_eq (b : Box) : (b.width : Int) = b.high.x - b.low.x + 1 := by
  have ordered := b.ordered.1
  simp only [width]
  omega

lemma height_eq (b : Box) : (b.height : Int) = b.high.y - b.low.y + 1 := by
  have ordered := b.ordered.2
  simp only [height]
  omega

lemma contains_of_lt {i j : Nat} (row : i < b.height) (column : j < b.width) :
    b.Contains ⟨b.low.x + j, b.high.y - i⟩ := by
  have width := b.width_eq
  have height := b.height_eq
  simp only [Contains]
  omega

end Box

namespace Board

variable {b c : Board} {g : Glyphs}

@[simp] lemma length_row (b : Board) (g : Glyphs) (y : Int) :
    (b.row g y).length = b.bounds.width := by
  simp [row]

@[simp] lemma length_rows (b : Board) (g : Glyphs) : (b.rows g).length = b.bounds.height := by
  simp [rows]

/-- A drawing shows nothing but the cells inside the bounds. -/
theorem drawing_congr (bounds : c.bounds = b.bounds)
    (inside : ∀ p, b.bounds.Contains p → c.glyphAt g p = b.glyphAt g p) :
    c.drawing g = b.drawing g := by
  have rows : c.rows g = b.rows g := by
    unfold Board.rows row
    rw [bounds]
    apply List.map_congr_left
    intro i hi
    apply List.map_congr_left
    intro j hj
    exact inside _ (Box.contains_of_lt (List.mem_range.mp hi) (List.mem_range.mp hj))
  simp only [drawing, rows]

/-- What is drawn for a cell: a robot that stands there, or else an obstacle that is there, or else
nothing. -/
inductive Shows (b : Board) (g : Glyphs) (p : Cell) : Char → Prop
  | robot {r : Robot} (present : b.robot = some r) (here : r.location = p) :
      Shows b g p r.heading.glyph
  | obstacle (away : ∀ r ∈ b.robot, r.location ≠ p) (taken : p ∈ b.obstacles) :
      Shows b g p g.obstacle
  | blank (away : ∀ r ∈ b.robot, r.location ≠ p) (free : p ∉ b.obstacles) : Shows b g p g.blank

/-- Only a glyph for an obstacle or an empty cell can be a newline itself. -/
lemma Shows.ne_newline {p : Cell} {a : Char} (h : b.Shows g p a) (blank : g.blank ≠ '\n')
    (obstacle : g.obstacle ≠ '\n') : a ≠ '\n' := by
  cases h with
  | @robot r present here => cases r.heading <;> decide
  | obstacle away taken => exact obstacle
  | blank away free => exact blank

lemma shows_background {p : Cell} (away : ∀ r ∈ b.robot, r.location ≠ p) :
    b.Shows g p (glyphAt.background b g p) := by
  unfold glyphAt.background
  split
  · exact .obstacle away ‹_›
  · exact .blank away ‹_›

theorem shows_glyphAt (b : Board) (g : Glyphs) (p : Cell) : b.Shows g p (b.glyphAt g p) := by
  unfold glyphAt
  cases present : b.robot with
  | none => exact shows_background (by simp [present])
  | some r =>
    simp only
    split
    · exact .robot present ‹_›
    · exact shows_background (by simpa [present])

lemma getElem?_rows (b : Board) (g : Glyphs) {i : Nat} (hi : i < b.bounds.height) :
    (b.rows g)[i]? = some (b.row g (b.bounds.high.y - i)) := by
  simp [rows, hi]

lemma getElem?_row (b : Board) (g : Glyphs) (y : Int) {j : Nat} (hj : j < b.bounds.width) :
    (b.row g y)[j]? = some (b.glyphAt g ⟨b.bounds.low.x + j, y⟩) := by
  simp [row, hj]

/-- The rows of the drawing, each with a newline behind it. -/
def endedRows (b : Board) (g : Glyphs) : List (List Char) :=
  (b.rows g).map fun row => row ++ ['\n']

lemma length_of_mem_endedRows {x : List Char} (hx : x ∈ b.endedRows g) :
    x.length = b.bounds.width + 1 := by
  obtain ⟨row, mem, rfl⟩ := List.mem_map.mp hx
  obtain ⟨i, -, rfl⟩ := List.mem_map.mp mem
  simp

lemma drawing_append_newline (b : Board) (g : Glyphs) :
    (b.drawing g).toList ++ ['\n'] = (b.endedRows g).flatten := by
  have height := b.bounds.height_eq
  have ordered := b.bounds.ordered.2
  have filled : b.rows g ≠ [] := by
    rw [← List.length_pos_iff, length_rows]
    omega
  rw [drawing, String.toList_ofList, intercalate_append_separator _ filled]
  rfl

lemma length_drawing (b : Board) (g : Glyphs) :
    (b.drawing g).toList.length + 1 = b.bounds.height * (b.bounds.width + 1) := by
  have whole := congrArg List.length (b.drawing_append_newline g)
  rw [length_flatten_of_length fun x hx => length_of_mem_endedRows hx] at whole
  simpa [endedRows] using whole

/-- But for the newline of the last row, the drawing is found row by row. -/
lemma getElem?_drawing (b : Board) (g : Glyphs) {i k : Nat} (hi : i < b.bounds.height)
    (hk : k ≤ b.bounds.width) (inner : i + 1 < b.bounds.height ∨ k < b.bounds.width) :
    (b.drawing g).toList[i * (b.bounds.width + 1) + k]? =
      (b.row g (b.bounds.high.y - i) ++ ['\n'])[k]? := by
  have length := b.length_drawing g
  have before : i * (b.bounds.width + 1) + k < (b.drawing g).toList.length := by
    rcases inner with above | west
    · have rows : (i + 1 + 1) * (b.bounds.width + 1) ≤ b.bounds.height * (b.bounds.width + 1) :=
        Nat.mul_le_mul_right _ above
      rw [Nat.succ_mul, Nat.succ_mul] at rows
      omega
    · have rows : (i + 1) * (b.bounds.width + 1) ≤ b.bounds.height * (b.bounds.width + 1) :=
        Nat.mul_le_mul_right _ hi
      rw [Nat.succ_mul] at rows
      omega
  have row : (b.endedRows g)[i]? = some (b.row g (b.bounds.high.y - i) ++ ['\n']) := by
    rw [endedRows, List.getElem?_map, getElem?_rows b g hi]
    rfl
  rw [← List.getElem?_append_left before, drawing_append_newline]
  exact getElem?_flatten_of_length (fun x hx => length_of_mem_endedRows hx) row (by omega)

lemma getElem?_drawing_cell (b : Board) (g : Glyphs) {i j : Nat} (hi : i < b.bounds.height)
    (hj : j < b.bounds.width) : (b.drawing g).toList[i * (b.bounds.width + 1) + j]? =
      some (b.glyphAt g ⟨b.bounds.low.x + j, b.bounds.high.y - i⟩) := by
  rw [getElem?_drawing b g hi (Nat.le_of_lt hj) (.inr hj),
    List.getElem?_append_left (by rwa [length_row]), getElem?_row b g _ hj]

/-- What ends a drawing is the cell in the south-eastern corner. -/
lemma getLast?_drawing (b : Board) (g : Glyphs) : (b.drawing g).toList.getLast? =
    some (b.glyphAt g ⟨b.bounds.high.x, b.bounds.low.y⟩) := by
  have length := b.length_drawing g
  have width := b.bounds.width_eq
  have height := b.bounds.height_eq
  have ordered := b.bounds.ordered
  obtain ⟨m, rows⟩ := Nat.exists_eq_succ_of_ne_zero (show b.bounds.height ≠ 0 by omega)
  obtain ⟨n, columns⟩ := Nat.exists_eq_succ_of_ne_zero (show b.bounds.width ≠ 0 by omega)
  have index : (b.drawing g).toList.length - 1 = m * (b.bounds.width + 1) + n := by
    rw [rows, Nat.succ_mul] at length
    omega
  have corner : (⟨b.bounds.low.x + n, b.bounds.high.y - m⟩ : Cell) =
      ⟨b.bounds.high.x, b.bounds.low.y⟩ := by
    ext <;> simp only <;> omega
  rw [List.getLast?_eq_getElem?, index, getElem?_drawing_cell b g (by omega) (by omega), corner]

/-- A text shows a board cell by cell: the rows from north to south, each from west to east, with a
newline between two rows and none behind the last. -/
structure Depicts (b : Board) (g : Glyphs) (columns rows : Nat) (text : List Char) : Prop where
  length : text.length = rows * (columns + 1) - 1
  cell : ∀ i < rows, ∀ j < columns, ∃ a, text[i * (columns + 1) + j]? = some a ∧
    b.Shows g ⟨b.bounds.low.x + j, b.bounds.high.y - i⟩ a
  newline : ∀ i, i + 1 < rows → text[i * (columns + 1) + columns]? = some '\n'
  last : ∃ a, text.getLast? = some a ∧ b.Shows g ⟨b.bounds.high.x, b.bounds.low.y⟩ a
  /-- Only where a newline is drawn for a cell can there be one at the end. -/
  unended : g.blank ≠ '\n' → g.obstacle ≠ '\n' → text.getLast? ≠ some '\n'

lemma depicts_drawing (b : Board) (g : Glyphs) :
    b.Depicts g b.bounds.width b.bounds.height (b.drawing g).toList where
  length := by
    have length := b.length_drawing g
    omega
  cell i hi j hj := ⟨_, getElem?_drawing_cell b g hi hj, b.shows_glyphAt g _⟩
  newline i hi := by
    rw [getElem?_drawing b g (by omega) (Nat.le_refl _) (.inl hi)]
    simp
  last := ⟨_, b.getLast?_drawing g, b.shows_glyphAt g _⟩
  unended blank obstacle ends := by
    rw [getLast?_drawing] at ends
    exact (b.shows_glyphAt g _).ne_newline blank obstacle (Option.some.inj ends)

/-- A robot outside the bounds is nowhere in the drawing. -/
lemma drawing_robot_outside {r : Robot} (outside : ¬ b.bounds.Contains r.location) (g : Glyphs) :
    (b.withRobot (some r)).drawing g = (b.withRobot none).drawing g := by
  apply drawing_congr
  · rfl
  · intro p inside
    have elsewhere : r.location ≠ p := by
      rintro rfl
      exact outside inside
    exact if_neg elsewhere

/-- Nor is an obstacle outside the bounds. -/
lemma drawing_obstacle_outside {q : Cell} (outside : ¬ b.bounds.Contains q) (g : Glyphs) :
    (b.withObstacle q).drawing g = b.drawing g := by
  apply drawing_congr
  · rfl
  · intro p inside
    have elsewhere : p ≠ q := by
      rintro rfl
      exact outside inside
    have background : glyphAt.background (b.withObstacle q) g p = glyphAt.background b g p := by
      simp only [glyphAt.background, withObstacle, CellSet.mem_insert, elsewhere, false_or]
    simp only [glyphAt, background]
    rfl

/-- A drawing has one character for each cell inside the bounds and a newline between two rows, and
that is all it has: a robot or an obstacle outside makes no difference to it. -/
theorem drawing_cell_by_cell (b : Board) (g : Glyphs) :
    ∃ columns rows : Nat, (columns : Int) = b.bounds.high.x - b.bounds.low.x + 1 ∧
      (rows : Int) = b.bounds.high.y - b.bounds.low.y + 1 ∧
      b.Depicts g columns rows (b.drawing g).toList ∧
      (∀ r : Robot, ¬ b.bounds.Contains r.location →
        (b.withRobot (some r)).drawing g = (b.withRobot none).drawing g) ∧
      ∀ q, ¬ b.bounds.Contains q → (b.withObstacle q).drawing g = b.drawing g :=
  ⟨_, _, b.bounds.width_eq, b.bounds.height_eq, b.depicts_drawing g,
    fun _ outside => drawing_robot_outside outside g,
    fun _ outside => drawing_obstacle_outside outside g⟩

/-- On a board below the origin a robot on an obstacle is drawn instead of it, and neither the robot
nor an obstacle is drawn outside. -/
theorem drawing_cell_by_cell_below_origin :
    let b : Board := ⟨.between ⟨-1, -3⟩ ⟨1, -2⟩, some ⟨⟨1, 1⟩, .north⟩,
      .ofList [⟨-1, -3⟩, ⟨0, -2⟩]⟩
    let c : Board := b.withRobot (some ⟨⟨0, -2⟩, .west⟩)
    b.drawing .standard = "0X0\nX00" ∧ b.Depicts .standard 3 2 "0X0\nX00".toList ∧
      c.drawing .standard = "0<0\nX00" ∧ c.Depicts .standard 3 2 "0<0\nX00".toList ∧
      (¬ b.bounds.Contains ⟨1, 1⟩ ∧ (b.withRobot none).drawing .standard = "0X0\nX00") ∧
      ¬ b.bounds.Contains ⟨2, -4⟩ ∧ (b.withObstacle ⟨2, -4⟩).drawing .standard = "0X0\nX00" := by
  intro b c
  have drawn : b.drawing .standard = "0X0\nX00" := rfl
  have drawn' : c.drawing .standard = "0<0\nX00" := rfl
  obtain ⟨columns, rows, width, height, depicts, robot, obstacle⟩ :=
    b.drawing_cell_by_cell .standard
  obtain ⟨columns', rows', width', height', depicts', -, -⟩ := c.drawing_cell_by_cell .standard
  obtain ⟨rfl, rfl⟩ : columns = 3 ∧ rows = 2 := ⟨Int.ofNat.inj width, Int.ofNat.inj height⟩
  obtain ⟨rfl, rfl⟩ : columns' = 3 ∧ rows' = 2 := ⟨Int.ofNat.inj width', Int.ofNat.inj height'⟩
  rw [drawn] at depicts
  rw [drawn'] at depicts'
  have away : ¬ b.bounds.Contains ⟨1, 1⟩ := by decide
  have beyond : ¬ b.bounds.Contains ⟨2, -4⟩ := by decide
  exact ⟨drawn, depicts, drawn', depicts', ⟨away, (robot ⟨⟨1, 1⟩, .north⟩ away).symm.trans drawn⟩,
    beyond, (obstacle _ beyond).trans drawn⟩

end Board
end GridRobot
