import GridRobot.Proofs.Grid.CellSet
import GridRobot.Proofs.Simulator.Retrace
import Mathlib.Tactic.Lemma

/-! Lines that need not be given twice, and lines that need not have been given: only steps and turns do
more when they are repeated, and a placement makes up for all that was done before it but for the
objects that were put down. -/
namespace GridRobot

namespace Board

variable {b : Board} {k : Command} {p : Cell}

lemma withObstacle_of_mem (old : p ∈ b.obstacles) : b.withObstacle p = b := by
  rw [withObstacle, CellSet.insert_of_mem old]

/-- A command that is no step and no turn, given a second time, finds everything done. -/
theorem after_after (still : ¬ k.IsDrive) : (b.after k).after k = b.after k := by
  cases k with
  | place p h => rfl
  | move => exact absurd .move still
  | rotate t => exact absurd (.rotate t) still
  | report => simp only [after_report]
  | map => simp only [after_map]
  | placeObject =>
    cases present : b.robot with
    | none =>
      have same : b.after .placeObject = b := after_of_absent present (by simp)
      rw [same, same]
    | some r =>
      rw [after_placeObject present, after_placeObject (b := b.withObstacle r.ahead) present]
      exact withObstacle_of_mem (CellSet.mem_insert.mpr (.inl rfl))

/-- What has an answer leaves the board as it is, so that it is answered again. -/
lemma answer_after (still : ¬ k.IsDrive) (g : Glyphs) : (b.after k).answer k g = b.answer k g := by
  cases k with
  | place p h | placeObject => rfl
  | move => exact absurd .move still
  | rotate t => exact absurd (.rotate t) still
  | report => rw [after_report]
  | map => rw [after_map]

end Board

namespace Simulator

variable {s : Simulator} {b c : Board} {line : String} {lines : List String}

/-- A line that is neither a step nor a turn is dealt with in the same way on the board after it. -/
theorem Stepped.again {t : Step} (stepped : s.Stepped b line t)
    (still : ∀ k, Command.ofLine line = .ok (.ok k) → ¬ k.IsDrive) : s.Stepped t.board line t := by
  cases stepped with
  | failed read => exact .failed read
  | rejected read answered invalid => exact .rejected read answered invalid
  | @committed k output read answered valid =>
    have same : (b.after k).after k = b.after k := Board.after_after (still k read)
    have answered' : (b.after k).answer k s.glyphs = .ok output := by
      rw [Board.answer_after (still k read), answered]
    have again := Stepped.committed read answered' (same.symm ▸ valid)
    rwa [same] at again

lemma Stepped.withRobot_board {t : Step} (stepped : s.Stepped b line t)
    (other : Command.ofLine line ≠ .ok (.ok .placeObject)) (r : Option Robot) :
    t.board.withRobot r = b.withRobot r := by
  cases stepped with
  | failed read => rfl
  | rejected read answered invalid => rfl
  | committed read answered valid =>
    refine Board.withRobot_after (fun object => ?_) r
    exact absurd (object ▸ read) other

/-- Lines that put no object down lead to the same board but for its robot. -/
theorem withRobot_of_replay (replayed : s.replay b lines = .ok c)
    (other : ∀ line ∈ lines, Command.ofLine line ≠ .ok (.ok .placeObject)) (r : Option Robot) :
    c.withRobot r = b.withRobot r := by
  induction lines generalizing b with
  | nil =>
    cases replayed
    rfl
  | cons line lines ih =>
    obtain ⟨t, step, later⟩ := replay_cons_eq_ok_iff.mp replayed
    obtain ⟨here, rest⟩ := List.forall_mem_cons.mp other
    rw [ih later rest, (step_eq_ok_iff.mp step).withRobot_board here]

/-- To be given a second time makes no difference for a line that is neither a step nor a turn, neither
to the board nor to what is told of the line. And whatever was done before it, a placement inside the
bounds and on no obstacle leads to the board that it leads to at once, unless objects were put down. -/
theorem repeated_and_placed_anew (s : Simulator) (b : Board) :
    (∀ line t, s.step b line = .ok t →
      (∀ k, Command.ofLine line = .ok (.ok k) → ¬ k.IsDrive) → s.step t.board line = .ok t) ∧
    ∀ lines line p h, s.Completes b lines →
      (∀ l ∈ lines, Command.ofLine l ≠ .ok (.ok .placeObject)) →
      Command.ofLine line = .ok (.ok (.place p h)) → b.bounds.Contains p → p ∉ b.obstacles →
      ∃ t, s.step b line = .ok t ∧ t.board = { b with robot := some ⟨p, h⟩ } ∧
        s.replay b (lines ++ [line]) = .ok t.board := by
  constructor
  · intro line t step still
    exact step_eq_ok_iff.mpr ((step_eq_ok_iff.mp step).again still)
  · intro lines line p h complete other read inside clear
    obtain ⟨c, replayed⟩ := completes_iff_replay.mp complete
    have ground := withRobot_of_replay replayed other
    have free : (c.withRobot none).IsFree p := by
      rw [ground]
      exact ⟨inside, clear⟩
    have last := step_of_free (s := s) (b := c) read free
    rw [ground] at last
    refine ⟨_, step_of_free read ⟨inside, clear⟩, rfl, ?_⟩
    exact replay_append_eq_ok_iff.mpr ⟨c, replayed, replay_cons_eq_ok_iff.mpr ⟨_, last, rfl⟩⟩

/-- An object is put over the edge twice. A robot that stands outside is turned in vain, refused a place
on an obstacle and driven about, before it is placed where it could have been placed at once. -/
theorem repeated_and_placed_anew_from_outside :
    let s : Simulator := ⟨.standard, .standard⟩
    let b : Board := ⟨.between ⟨0, 0⟩ ⟨4, 4⟩, some ⟨⟨4, 1⟩, .east⟩, .ofList [⟨1, 1⟩]⟩
    let t : Step := ⟨b.withObstacle ⟨5, 1⟩, .ran .placeObject none true, none⟩
    let c : Board := b.withRobot (some ⟨⟨9, 9⟩, .north⟩)
    let lines := ["left", "PLACE 1,1,NORTH", "PLACE 2,2,EAST", "move", "jump", "right"]
    s.step b "Place_Object" = .ok t ∧
      (∀ k, Command.ofLine "Place_Object" = .ok (.ok k) → ¬ k.IsDrive) ∧
      s.step t.board "Place_Object" = .ok t ∧
      (¬ c.Valid ∧ s.Completes c lines ∧
        ∀ l ∈ lines, Command.ofLine l ≠ .ok (.ok .placeObject)) ∧
      Command.ofLine "place 0,1,south" = .ok (.ok (.place ⟨0, 1⟩ .south)) ∧
      s.replay c (lines ++ ["place 0,1,south"]) = .ok (b.withRobot (some ⟨⟨0, 1⟩, .south⟩)) := by
  intro s b t c lines
  have step : s.step b "Place_Object" = .ok t := rfl
  have still : ∀ k, Command.ofLine "Place_Object" = .ok (.ok k) → ¬ k.IsDrive := by
    intro k read drive
    cases drive <;> cases read
  have complete : s.Completes c lines := rfl
  have other : ∀ l ∈ lines, Command.ofLine l ≠ .ok (.ok .placeObject) := by decide
  have read : Command.ofLine "place 0,1,south" = .ok (.ok (.place ⟨0, 1⟩ .south)) := rfl
  obtain ⟨u, -, board, replayed⟩ := (repeated_and_placed_anew s c).2 lines _ _ _ complete other read
    (by decide) (by decide)
  rw [board] at replayed
  exact ⟨step, still, (repeated_and_placed_anew s b).1 _ t step still, ⟨by decide, complete, other⟩,
    read, replayed⟩

end Simulator
end GridRobot
