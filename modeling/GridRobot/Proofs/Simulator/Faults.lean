import GridRobot.Proofs.Command.Reading
import GridRobot.Proofs.Grid.Cell
import GridRobot.Proofs.Simulator.Step
import Mathlib.Tactic.ByContra
import Mathlib.Tactic.Lemma

/-! When a run stops before its last line: at a numeral that is too long to be converted, and at a
report of a robot whose place is too far away to be written. -/
namespace GridRobot
open Decimal Command

lemma Robot.report_eq_ok_iff {r : Robot} : (∃ t, r.report = .ok t) ↔ ¬ r.location.IsRemote := by
  rw [← Cell.write_eq_ok_iff]
  constructor
  · intro h
    obtain ⟨t, reported⟩ := h
    obtain ⟨cell, written, -⟩ := bind_eq_ok_iff.mp reported
    exact ⟨cell, written⟩
  · intro h
    obtain ⟨cell, written⟩ := h
    exact ⟨_, bind_eq_ok_iff.mpr ⟨cell, written, rfl⟩⟩

namespace Board

/-- Only the report of a robot that is too far away has no answer. -/
theorem answer_eq_ok_iff {b : Board} {k : Command} {g : Glyphs} :
    (∃ output, b.answer k g = .ok output) ↔
      ¬ (k = .report ∧ ∃ r ∈ b.robot, r.location.IsRemote) := by
  by_cases asked : k = .report
  · subst asked
    cases present : b.robot with
    | none =>
      simp only [answer, present]
      exact ⟨fun _ => by simp, fun _ => ⟨none, rfl⟩⟩
    | some r =>
      simp only [answer, present, Option.mem_some_iff, exists_eq_left', true_and]
      rw [← Robot.report_eq_ok_iff]
      constructor
      · intro h
        obtain ⟨output, answered⟩ := h
        obtain ⟨t, reported, -⟩ := map_eq_ok_iff.mp answered
        exact ⟨t, reported⟩
      · intro h
        obtain ⟨t, reported⟩ := h
        exact ⟨some t, map_eq_ok_iff.mpr ⟨t, reported, rfl⟩⟩
  · refine ⟨fun _ h => asked h.1, fun _ => ?_⟩
    unfold answer
    split
    · exact absurd rfl asked
    · exact ⟨_, rfl⟩
    · exact ⟨none, rfl⟩

/-- What makes a line stop a run on a board, in the words of the grammar. -/
def StoppedBy (b : Board) (line : String) : Prop :=
  IsOverlong line.toList ∨
    LetterCase.SameLetters line.toList "report".toList ∧ ∃ r ∈ b.robot, r.location.IsRemote

end Board

namespace Command

variable {line : String}

theorem ofLine_eq_ok_iff : (∃ reading, ofLine line = .ok reading) ↔ ¬ IsOverlong line.toList := by
  rw [← ofLineChars_eq_error_iff, ofLine]
  cases ofLineChars line.toList with
  | error e => simp
  | ok reading => simp

lemma ofLine_eq_report_iff :
    ofLine line = .ok (.ok .report) ↔ LetterCase.SameLetters line.toList "report".toList :=
  Keyword.report.ofLineChars_iff

end Command

namespace Simulator

variable {s : Simulator} {b : Board} {line : String} {lines : List String}

theorem step_eq_ok_iff_not_stoppedBy : (∃ t, s.step b line = .ok t) ↔ ¬ b.StoppedBy line := by
  unfold Board.StoppedBy
  rw [← ofLine_eq_report_iff, not_or, ← ofLine_eq_ok_iff]
  constructor
  · intro given
    obtain ⟨t, h⟩ := given
    cases step_eq_ok_iff.mp h with
    | failed read => exact ⟨⟨_, read⟩, by simp [read]⟩
    | committed read answered _ | rejected read answered _ =>
      refine ⟨⟨_, read⟩, fun ⟨asked, far⟩ => ?_⟩
      rw [read] at asked
      cases asked
      exact Board.answer_eq_ok_iff.mp ⟨_, answered⟩ ⟨rfl, far⟩
  · intro given
    obtain ⟨⟨reading, read⟩, near⟩ := given
    cases h : s.step b line with
    | ok t => exact ⟨t, rfl⟩
    | error e =>
      rcases step_eq_error_iff.mp h with ⟨f, read', -⟩ | ⟨k, f, read', unanswered, -⟩
      · rw [read] at read'
        cases read'
      · have far : k = .report ∧ ∃ r ∈ b.robot, r.location.IsRemote := by
          by_contra answerable
          obtain ⟨output, answered⟩ := Board.answer_eq_ok_iff (g := s.glyphs).mpr answerable
          rw [answered] at unanswered
          cases unanswered
        exact absurd ⟨far.1 ▸ read', far.2⟩ near

/-- A run completes exactly if none of its lines stops it on the board it comes to. -/
theorem completes_iff_not_stoppedBy :
    s.Completes b lines ↔
      ∀ p l, p ++ [l] <+: lines → ∀ c, s.replay b p = .ok c → ¬ c.StoppedBy l := by
  induction lines generalizing b with
  | nil => simp [completes_nil]
  | cons line lines ih =>
    rw [completes_cons_iff]
    constructor
    · intro h p l hp c replayed
      obtain ⟨t, step, rest⟩ := h
      cases p with
      | nil =>
        obtain ⟨rfl, -⟩ := List.cons_prefix_cons.mp hp
        cases replayed
        exact step_eq_ok_iff_not_stoppedBy.mp ⟨t, step⟩
      | cons q p =>
        obtain ⟨rfl, later⟩ := List.cons_prefix_cons.mp hp
        obtain ⟨t', step', replayed⟩ := replay_cons_eq_ok_iff.mp replayed
        cases step.symm.trans step'
        exact ih.mp rest p l later c replayed
    · intro free
      have start : ¬ b.StoppedBy line := free [] line ⟨lines, rfl⟩ b rfl
      obtain ⟨t, step⟩ := step_eq_ok_iff_not_stoppedBy.mpr start
      refine ⟨t, step, ih.mpr fun p l hp c replayed => ?_⟩
      refine free (line :: p) l ?_ c (replay_cons_eq_ok_iff.mpr ⟨t, step, replayed⟩)
      exact List.cons_prefix_cons.mpr ⟨rfl, hp⟩

/-- Reading, a step and a whole run fail to give their results for no other reason than an overlong
numeral in a line or a report of a robot that is too far away. -/
theorem results_unless_overlong_or_remote (s : Simulator) (b : Board) (line : String)
    (lines : List String) :
    ((∃ reading, Command.ofLine line = .ok reading) ↔ ¬ IsOverlong line.toList) ∧
    ((∃ t, s.step b line = .ok t) ↔ ¬ b.StoppedBy line) ∧
    ((∃ reports, s.run b lines = .ok reports ∧ reports.length = lines.length) ↔
      ∀ p l, p ++ [l] <+: lines → ∀ c, s.replay b p = .ok c → ¬ c.StoppedBy l) := by
  refine ⟨ofLine_eq_ok_iff, step_eq_ok_iff_not_stoppedBy, ?_⟩
  rw [← completes_iff_not_stoppedBy, completes_iff_run]
  constructor
  · intro h
    obtain ⟨reports, ran, -⟩ := h
    exact ⟨reports, ran⟩
  · intro h
    obtain ⟨reports, ran⟩ := h
    exact ⟨reports, ran, length_of_run ran⟩

/-- Any placement whose column has too many digits is overlong. -/
lemma isOverlong_of_column {ds : List Char} (digits : IsDigits ds) (long : digitLimit < ds.length) :
    IsOverlong ("PLACE " ++ String.ofList ds ++ ",0,NORTH").toList := by
  have absent : ',' ∉ ds := fun hc => absurd (digits.2 _ hc) (by decide)
  have three : InThree (ds ++ ",0,NORTH".toList) ds ['0'] "NORTH".toList :=
    ⟨rfl, absent, by decide, by decide⟩
  refine ⟨_, ⟨"PLACE ".toList, ?_, by decide⟩, _, _, _, _, three, .inl (.bare digits), long⟩
  simp only [String.toList_append, String.toList_ofList, List.append_assoc]

/-- One digit more than are converted is enough to stop reading, and the run with it. -/
theorem overlong_placement_stops :
    let line := "PLACE " ++ String.ofList (List.replicate 4301 '1') ++ ",0,NORTH"
    let s : Simulator := ⟨.standard, .standard⟩
    (¬ ∃ reading, Command.ofLine line = .ok reading) ∧
      (¬ ∃ t, s.step s.initialBoard line = .ok t) ∧
      ¬ ∃ reports, s.run s.initialBoard [line] = .ok reports := by
  intro line s
  have digits : IsDigits (List.replicate 4301 '1') := by
    refine ⟨List.cons_ne_nil _ _, fun c hc => ?_⟩
    rw [List.eq_of_mem_replicate hc]
    decide
  have long : IsOverlong line.toList :=
    isOverlong_of_column digits (by rw [List.length_replicate]; decide)
  have stopped : s.initialBoard.StoppedBy line := .inl long
  refine ⟨fun h => ofLine_eq_ok_iff.mp h long, ?_, ?_⟩
  · exact fun h => step_eq_ok_iff_not_stoppedBy.mp h stopped
  · intro h
    have free := completes_iff_not_stoppedBy.mp (completes_iff_run.mpr h)
    exact free [] line ⟨[], rfl⟩ _ rfl stopped

end Simulator
end GridRobot
