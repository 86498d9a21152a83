import GridRobot.Proofs.Board.Inside
import GridRobot.Proofs.Grid.CellSet
import GridRobot.Proofs.Simulator.Step
import GridRobot.Simulator.Outcome
import Mathlib.Tactic.Lemma

/-! Obstacles outside the bounds, which objects that are placed at an edge leave behind, never make
a difference to what a run answers. -/
namespace GridRobot

namespace Simulator

variable {s : Simulator} {b c : Board} {line : String} {lines : List String}

/-- What a line does on one board it does on the other, and the boards after it are alike. -/
theorem Stepped.sameInside {t : Step} (h : s.Stepped b line t) (same : b.SameInside c) :
    ∃ u, s.Stepped c line u ∧ u.report = t.report ∧ t.board.SameInside u.board := by
  cases h with
  | failed read => exact ⟨_, .failed read, rfl, same⟩
  | @committed k _ read answered valid =>
    rw [← same.answer] at answered
    rw [← (same.after k).valid_iff] at valid
    exact ⟨_, .committed read answered valid, rfl, same.after k⟩
  | @rejected k _ read answered invalid =>
    rw [← same.answer] at answered
    rw [← (same.after k).valid_iff] at invalid
    exact ⟨_, .rejected read answered invalid, rfl, same⟩

lemma step_sameInside {t : Step} (step : s.step b line = .ok t) (same : b.SameInside c) :
    ∃ u, s.step c line = .ok u ∧ u.report = t.report ∧ t.board.SameInside u.board := by
  obtain ⟨u, stepped, report, board⟩ := (step_eq_ok_iff.mp step).sameInside same
  exact ⟨u, step_eq_ok_iff.mpr stepped, report, board⟩

theorem run_sameInside {reports : List StepReport} (ran : s.run b lines = .ok reports)
    (same : b.SameInside c) : s.run c lines = .ok reports := by
  induction lines generalizing b c reports with
  | nil => exact ran
  | cons line lines ih =>
    obtain ⟨t, rest, step, later, rfl⟩ := run_cons_eq_ok_iff.mp ran
    obtain ⟨u, step', report, board⟩ := step_sameInside step same
    exact run_cons_eq_ok_iff.mpr ⟨u, rest, step', ih later board, by rw [report]⟩

theorem replay_sameInside {d : Board} (replayed : s.replay b lines = .ok d)
    (same : b.SameInside c) : ∃ e, s.replay c lines = .ok e ∧ d.SameInside e := by
  induction lines generalizing b c with
  | nil =>
    cases replayed
    exact ⟨c, rfl, same⟩
  | cons line lines ih =>
    obtain ⟨t, step, later⟩ := replay_cons_eq_ok_iff.mp replayed
    obtain ⟨u, step', -, board⟩ := step_sameInside step same
    obtain ⟨e, last, alike⟩ := ih later board
    exact ⟨e, replay_cons_eq_ok_iff.mpr ⟨u, step', last⟩, alike⟩

/-- Two boards that are the same inside give the same outcomes for the same lines, with all that is
in them, and are still the same inside when the run is over. -/
theorem outside_unobservable (s : Simulator) (b c : Board) (same : b.SameInside c)
    (lines : List String) (complete : s.Completes b lines) :
    ∃ os d e, (s.run b lines).map outcomes = .ok os ∧ (s.run c lines).map outcomes = .ok os ∧
      s.replay b lines = .ok d ∧ s.replay c lines = .ok e ∧ d.SameInside e := by
  obtain ⟨reports, ran⟩ := completes_iff_run.mp complete
  obtain ⟨d, replayed⟩ := completes_iff_replay.mp complete
  obtain ⟨e, replayed', alike⟩ := replay_sameInside replayed same
  refine ⟨outcomes reports, d, e, ?_, ?_, replayed, replayed', alike⟩
  · rw [ran]
    rfl
  · rw [run_sameInside ran same]
    rfl

/-- A robot puts objects over the edge, where one of the boards already has some, and is held back
and drawn there. -/
theorem outside_unobservable_over_edge :
    let s : Simulator := ⟨.standard, .standard⟩
    let b : Board := ⟨.between ⟨0, 0⟩ ⟨1, 1⟩, none, .ofList [⟨1, 1⟩]⟩
    let c : Board := ⟨.between ⟨0, 0⟩ ⟨1, 1⟩, none, .ofList [⟨0, -1⟩, ⟨1, 1⟩, ⟨7, 7⟩]⟩
    let lines := ["PLACE 0,0,WEST", "place_object", "left", "move", "place_object", "jump",
      "PLACE 1,1,NORTH", "report", "map"]
    b.SameInside c ∧ s.Completes b lines ∧
      ∃ os d e, (s.run b lines).map outcomes = .ok os ∧ (s.run c lines).map outcomes = .ok os ∧
        s.replay b lines = .ok d ∧ s.replay c lines = .ok e ∧ d.SameInside e := by
  intro s b c lines
  have same : b.SameInside c := by
    refine ⟨rfl, rfl, fun p inside => ?_⟩
    obtain ⟨⟨west, east⟩, south, north⟩ : (0 ≤ p.x ∧ p.x ≤ 1) ∧ 0 ≤ p.y ∧ p.y ≤ 1 := inside
    simp only [b, c, CellSet.mem_ofList, List.mem_cons, List.not_mem_nil, or_false, Cell.ext_iff]
    constructor
    · omega
    · exact fun middle => .inr (.inl middle)
  have complete : s.Completes b lines := rfl
  exact ⟨same, complete, outside_unobservable s b c same lines complete⟩

end Simulator
end GridRobot
