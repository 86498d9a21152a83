import GridRobot.Proofs.Board.Update
import GridRobot.Proofs.Command.Reading
import GridRobot.Proofs.Grid.CellSet
import GridRobot.Proofs.Simulator.Safety
import Mathlib.Tactic.Lemma

/-! Where obstacles come from: each was put in front of the robot by a line of the run, and none that
was put there is ever lost. -/
namespace GridRobot

namespace Box

/-- The cell is one step outside on one axis, and within the bounds on the other. -/
def Borders (b : Box) (c : Cell) : Prop :=
  ((b.low.x ≤ c.x ∧ c.x ≤ b.high.x) ∧ (c.y = b.low.y - 1 ∨ c.y = b.high.y + 1)) ∨
    ((c.x = b.low.x - 1 ∨ c.x = b.high.x + 1) ∧ (b.low.y ≤ c.y ∧ c.y ≤ b.high.y))

/-- A single step leads no further out than to a cell at the border. -/
lemma contains_or_borders_neighbour {b : Box} {c : Cell} (inside : b.Contains c) (h : Heading) :
    b.Contains (c.neighbour h) ∨ b.Borders (c.neighbour h) := by
  cases h <;> simp only [Contains, Borders, Cell.neighbour, Heading.dx, Heading.dy] at * <;> omega

end Box

/-- Only an object that is put down by a robot makes a difference to the obstacles. -/
lemma Board.obstacles_after (b : Board) (k : Command) :
    (∃ r, k = .placeObject ∧ b.robot = some r ∧
        (b.after k).obstacles = b.obstacles.insert r.ahead) ∨
      ((k = .placeObject → b.robot = none) ∧ (b.after k).obstacles = b.obstacles) := by
  by_cases other : k = .placeObject → b.robot = none
  · have ground : (b.after k).withRobot none = b.withRobot none := withRobot_after other none
    have same := congrArg obstacles ground
    exact .inr ⟨other, same⟩
  · obtain ⟨rfl, robot⟩ := Classical.not_imp.mp other
    obtain ⟨r, present⟩ := Option.ne_none_iff_exists'.mp robot
    refine .inl ⟨r, rfl, present, ?_⟩
    rw [after_placeObject present]
    rfl

namespace Simulator

variable {s : Simulator} {b c : Board} {line : String} {lines : List String} {p : Cell}

/-- A line with which a robot puts an object down is never refused on a valid board, and every other
line leaves the obstacles as they are. -/
theorem Stepped.obstacles {t : Step} (h : s.Stepped b line t) (valid : b.Valid) :
    (∃ r, Command.ofLine line = .ok (.ok .placeObject) ∧ b.robot = some r ∧
        t.board.obstacles = b.obstacles.insert r.ahead) ∨
      ((Command.ofLine line = .ok (.ok .placeObject) → b.robot = none) ∧
        t.board.obstacles = b.obstacles) := by
  cases h with
  | failed read =>
    refine .inr ⟨fun object => ?_, rfl⟩
    rw [read] at object
    cases object
  | @committed k output read answered candidate =>
    rw [read]
    rcases b.obstacles_after k with ⟨r, rfl, present, added⟩ | ⟨other, same⟩
    · exact .inl ⟨r, rfl, present, added⟩
    · refine .inr ⟨fun object => ?_, same⟩
      cases object
      exact other rfl
  | @rejected k output read answered invalid =>
    refine .inr ⟨fun object => ?_, rfl⟩
    rw [read] at object
    cases object
    cases present : b.robot with
    | none => rfl
    | some r =>
      rw [Board.after_placeObject present] at invalid
      exact absurd (Board.valid_withObstacle_ahead valid present) invalid

/-- A line of the run puts an object on the cell: the cell is in front of the robot on the board that
the lines before it lead to. -/
def PutBy (s : Simulator) (b : Board) (lines : List String) (p : Cell) : Prop :=
  ∃ (i : Nat) (line : String) (c : Board) (r : Robot), lines[i]? = some line ∧
    Command.ofLine line = .ok (.ok .placeObject) ∧ s.replay b (lines.take i) = .ok c ∧
    c.robot = some r ∧ p = r.ahead

lemma not_putBy_nil : ¬ s.PutBy b [] p := by
  intro given
  obtain ⟨i, line, c, r, nowhere, -⟩ := given
  cases nowhere

/-- An object is put down by the first line or by a later one. -/
lemma putBy_cons_iff {t : Step} (step : s.step b line = .ok t) :
    s.PutBy b (line :: lines) p ↔
      (Command.ofLine line = .ok (.ok .placeObject) ∧ ∃ r, b.robot = some r ∧ p = r.ahead) ∨
        s.PutBy t.board lines p := by
  constructor
  · intro given
    obtain ⟨i, l, c, r, here, object, replayed, present, ahead⟩ := given
    cases i with
    | zero =>
      cases here
      cases replayed
      exact .inl ⟨object, r, present, ahead⟩
    | succ i =>
      obtain ⟨u, step', later⟩ := replay_cons_eq_ok_iff.mp replayed
      cases step.symm.trans step'
      exact .inr ⟨i, l, c, r, here, object, later, present, ahead⟩
  · intro given
    rcases given with ⟨object, r, present, ahead⟩ | ⟨i, l, c, r, here, object, later, present, ahead⟩
    · exact ⟨0, line, b, r, rfl, object, rfl, present, ahead⟩
    · exact ⟨i + 1, l, c, r, here, object, replay_cons_eq_ok_iff.mpr ⟨t, step, later⟩, present,
        ahead⟩

/-- On the board that lines lead to there are the obstacles from before and the objects that were put
down, and nothing else. -/
theorem mem_obstacles_of_replay (valid : b.Valid) (replayed : s.replay b lines = .ok c) :
    p ∈ c.obstacles ↔ p ∈ b.obstacles ∨ s.PutBy b lines p := by
  induction lines generalizing b with
  | nil =>
    cases replayed
    exact ⟨.inl, fun given => given.resolve_right not_putBy_nil⟩
  | cons line lines ih =>
    obtain ⟨t, step, later⟩ := replay_cons_eq_ok_iff.mp replayed
    have stepped := step_eq_ok_iff.mp step
    rw [ih (stepped.keeps valid).1 later, putBy_cons_iff step, ← or_assoc]
    apply or_congr_left
    rcases stepped.obstacles valid with ⟨r, object, present, added⟩ | ⟨other, same⟩
    · simp only [added, CellSet.mem_insert, object, present, Option.some.injEq, exists_eq_left',
        true_and, or_comm]
    · rw [same]
      constructor
      · exact .inl
      · intro given
        rcases given with old | ⟨object, r, present, -⟩
        · exact old
        · rw [other object] at present
          cases present

/-- A run has no more new obstacles than lines that put an object down. -/
theorem length_obstacles_of_replay (valid : b.Valid) (replayed : s.replay b lines = .ok c) :
    c.obstacles.cells.length ≤ b.obstacles.cells.length +
      lines.countP fun line => LetterCase.SameLetters line.toList "place_object".toList := by
  induction lines generalizing b with
  | nil =>
    cases replayed
    simp
  | cons line lines ih =>
    obtain ⟨t, step, later⟩ := replay_cons_eq_ok_iff.mp replayed
    have stepped := step_eq_ok_iff.mp step
    have rest := ih (stepped.keeps valid).1 later
    rw [List.countP_cons]
    rcases stepped.obstacles valid with ⟨r, object, -, added⟩ | ⟨-, same⟩
    · have letters : LetterCase.SameLetters line.toList "place_object".toList :=
        Command.Keyword.placeObject.ofLineChars_iff.mp object
      have grown := b.obstacles.length_insert_le r.ahead
      rw [added] at rest
      simp only [letters, decide_true, if_true]
      omega
    · rw [same] at rest
      omega

/-- The obstacles at the end of a run that began with none are the cells on which its lines put
objects. They lie on the board or one step outside it, never at an outer corner, and are no more
than the lines that put objects down. -/
theorem obstacles_put_by_lines (s : Simulator) (lines : List String)
    (complete : s.Completes s.initialBoard lines) :
    ∃ c, s.replay s.initialBoard lines = .ok c ∧
      (∀ p, p ∈ c.obstacles ↔ s.PutBy s.initialBoard lines p) ∧
      (∀ p ∈ c.obstacles, s.initialBoard.bounds.Contains p ∨ s.initialBoard.bounds.Borders p) ∧
      c.obstacles.cells.length ≤
        lines.countP fun line => LetterCase.SameLetters line.toList "place_object".toList := by
  obtain ⟨c, replayed⟩ := completes_iff_replay.mp complete
  have origin : ∀ p, p ∈ c.obstacles ↔ s.PutBy s.initialBoard lines p := by
    intro p
    rw [mem_obstacles_of_replay s.initialBoard_valid replayed]
    exact or_iff_right (CellSet.not_mem_empty p)
  refine ⟨c, replayed, origin, fun p hp => ?_, ?_⟩
  · obtain ⟨i, line, d, r, -, -, reached, present, rfl⟩ := (origin p).mp hp
    obtain ⟨valid, kept⟩ := replay_keeps s.initialBoard_valid reached
    have inside : s.initialBoard.bounds.Contains r.location := by
      rw [← kept.bounds]
      exact (valid r present).1
    exact Box.contains_or_borders_neighbour inside r.heading
  · have bound := length_obstacles_of_replay s.initialBoard_valid replayed
    have none : s.initialBoard.obstacles.cells.length = 0 := rfl
    omega

/-- One object is asked for before there is a robot, two are put on the same cell over the edge, and
one on the board, where the robot neither steps nor is placed afterwards. -/
theorem obstacles_put_by_lines_over_edge :
    let s : Simulator := ⟨.standard, .standard⟩
    let lines := ["place_object", "PLACE 0,0,WEST", "place_object", "Place_Object", "right",
      "PLACE_OBJECT", "move", "PLACE 0,1,EAST", "jump"]
    let c : Board := ⟨.between ⟨0, 0⟩ ⟨4, 4⟩, some ⟨⟨0, 0⟩, .north⟩, .ofList [⟨-1, 0⟩, ⟨0, 1⟩]⟩
    s.Completes s.initialBoard lines ∧ s.replay s.initialBoard lines = .ok c ∧
      (∀ p, p ∈ c.obstacles ↔ s.PutBy s.initialBoard lines p) ∧
      (∀ p ∈ c.obstacles, s.initialBoard.bounds.Contains p ∨ s.initialBoard.bounds.Borders p) ∧
      c.obstacles.cells.length ≤
        lines.countP fun line => LetterCase.SameLetters line.toList "place_object".toList := by
  intro s lines c
  have complete : s.Completes s.initialBoard lines := rfl
  have replayed : s.replay s.initialBoard lines = .ok c := rfl
  obtain ⟨d, replayed', traced⟩ := obstacles_put_by_lines s lines complete
  obtain rfl : c = d := Except.ok.inj (replayed.symm.trans replayed')
  exact ⟨complete, replayed, traced⟩

end Simulator
end GridRobot
