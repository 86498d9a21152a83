import GridRobot.Proofs.Simulator.Step
import Mathlib.Tactic.Lemma

/-! A run can be cut anywhere: what follows the cut is a run of its own, on the board that the lines
before the cut lead to, but for the numbers of its lines. -/
namespace GridRobot

/-- The same outcome of a line that stands so many lines further down. -/
def Outcome.raised (n : Nat) (o : Outcome) : Outcome :=
  { o with context := o.context.map fun ms => ms.map fun
      | ("line", .int line) => ("line", .int (line + n))
      | m => m }

lemma StepReport.raised_outcomeAt (r : StepReport) (n line : Nat) :
    (r.outcomeAt line).raised n = r.outcomeAt (line + n) := rfl

namespace Simulator

variable {s : Simulator} {b c : Board} {xs ys lines : List String} {reports : List StepReport}

/-- Also where a line stops the replay it makes no difference where the lines are cut. -/
theorem replay_append (s : Simulator) (b : Board) (xs ys : List String) :
    s.replay b (xs ++ ys) = s.replay b xs >>= fun c => s.replay c ys := by
  induction xs generalizing b with
  | nil => rfl
  | cons x xs ih =>
    rw [List.cons_append, replay, replay]
    cases step : s.step b x with
    | error e => rfl
    | ok t => exact ih t.board

/-- What a run tells before the cut stays as it is when lines are added, and even if one of these
stops the run. -/
theorem journal_append (replayed : s.replay b xs = .ok c) :
    s.journal b (xs ++ ys) =
      ((s.journal b xs).1 ++ (s.journal c ys).1, (s.journal c ys).2) := by
  induction xs generalizing b with
  | nil =>
    cases replayed
    rfl
  | cons x xs ih =>
    obtain ⟨t, step, later⟩ := replay_cons_eq_ok_iff.mp replayed
    simp only [List.cons_append, journal, step, ih later]

theorem completes_append_iff :
    s.Completes b (xs ++ ys) ↔ ∃ c, s.replay b xs = .ok c ∧ s.Completes c ys := by
  constructor
  · intro complete
    obtain ⟨d, replayed⟩ := completes_iff_replay.mp complete
    obtain ⟨c, first, second⟩ := replay_append_eq_ok_iff.mp replayed
    exact ⟨c, first, completes_iff_replay.mpr ⟨d, second⟩⟩
  · intro given
    obtain ⟨c, first, complete⟩ := given
    obtain ⟨d, second⟩ := completes_iff_replay.mp complete
    exact completes_iff_replay.mpr ⟨d, replay_append_eq_ok_iff.mpr ⟨c, first, second⟩⟩

lemma run_append {first second : List StepReport} (replayed : s.replay b xs = .ok c)
    (ran : s.run b xs = .ok first) (ran' : s.run c ys = .ok second) :
    s.run b (xs ++ ys) = .ok (first ++ second) := by
  obtain ⟨-, rfl⟩ := run_eq_ok_iff.mp ran
  obtain ⟨complete, rfl⟩ := run_eq_ok_iff.mp ran'
  refine run_eq_ok_iff.mpr ⟨completes_append_iff.mpr ⟨c, replayed, complete⟩, ?_⟩
  rw [journal_append replayed, List.map_append]

/-- Every line is run on the board that the lines before it lead to. -/
theorem getElem?_of_run (ran : s.run b lines = .ok reports) {k : Nat} {line : String}
    (given : lines[k]? = some line) :
    ∃ c t, s.replay b (lines.take k) = .ok c ∧ s.step c line = .ok t ∧
      reports[k]? = some t.report := by
  induction lines generalizing b reports k with
  | nil => cases given
  | cons l lines ih =>
    obtain ⟨t, rest, step, later, rfl⟩ := run_cons_eq_ok_iff.mp ran
    cases k with
    | zero =>
      cases given
      exact ⟨b, t, rfl, step, rfl⟩
    | succ k =>
      obtain ⟨c, u, replayed, step', report⟩ := ih later given
      exact ⟨c, u, replay_cons_eq_ok_iff.mpr ⟨t, step, replayed⟩, step', report⟩

lemma outcomes_append (first second : List StepReport) :
    outcomes (first ++ second) =
      outcomes first ++ (outcomes second).map (Outcome.raised first.length) := by
  rw [outcomes, List.mapIdx_append]
  congr 1
  refine List.ext_getElem? fun k => ?_
  simp only [List.getElem?_map, getElem?_outcomes, List.getElem?_mapIdx, Option.map_map,
    Function.comp_def, StepReport.raised_outcomeAt, Nat.add_right_comm]

/-- There is one outcome for each line, that of a step on the board which the lines before it lead
to, and it bears the number of the line. -/
structure LineByLine (s : Simulator) (b : Board) (lines : List String) (os : List Outcome) :
    Prop where
  complete : os.length = lines.length
  stepped : ∀ (k : Nat) (line : String), lines[k]? = some line → ∃ c t,
    s.replay b (lines.take k) = .ok c ∧ s.step c line = .ok t ∧
      os[k]? = some { t.report.outcome with context := some [("line", .int (k + 1))] }

lemma lineByLine_of_run (ran : s.run b lines = .ok reports) :
    s.LineByLine b lines (outcomes reports) where
  complete := by rw [outcomes, List.length_mapIdx, length_of_run ran]
  stepped k line given := by
    obtain ⟨c, t, replayed, step, report⟩ := getElem?_of_run ran given
    refine ⟨c, t, replayed, step, ?_⟩
    rw [getElem?_outcomes, report]
    rfl

/-- A run is cut like a replay. The outcomes before the cut are those of a run that ends there, and
the ones behind it are those of a run that starts there with its lines numbered on. -/
theorem run_composes (s : Simulator) (b : Board) (xs ys : List String)
    (complete : s.Completes b (xs ++ ys)) :
    ∃ c d os ps, s.replay b xs = .ok c ∧ s.replay c ys = .ok d ∧
      s.replay b (xs ++ ys) = .ok d ∧
      (s.run b xs).map outcomes = .ok os ∧ s.LineByLine b xs os ∧
      (s.run c ys).map outcomes = .ok ps ∧
      (s.run b (xs ++ ys)).map outcomes = .ok (os ++ ps.map (Outcome.raised xs.length)) := by
  obtain ⟨c, replayed, later⟩ := completes_append_iff.mp complete
  obtain ⟨d, replayed'⟩ := completes_iff_replay.mp later
  obtain ⟨first, ran⟩ := completes_iff_run.mp (completes_iff_replay.mpr ⟨c, replayed⟩)
  obtain ⟨second, ran'⟩ := completes_iff_run.mp later
  refine ⟨c, d, outcomes first, outcomes second, replayed, replayed', ?_, ?_,
    lineByLine_of_run ran, ?_, ?_⟩
  · rw [replay_append, replayed]
    exact replayed'
  · rw [ran]
    rfl
  · rw [ran']
    rfl
  · rw [run_append replayed ran ran', Except.map, outcomes_append, length_of_run ran]

/-- The cut stands behind a refused step off the board, and the robot is held up again after it. -/
theorem run_composes_at_edge :
    let s : Simulator := ⟨.standard, .standard⟩
    let b : Board := ⟨.between ⟨0, 0⟩ ⟨1, 1⟩, some ⟨⟨1, 1⟩, .east⟩, .ofList [⟨0, 1⟩]⟩
    let xs := ["place_object", "fly", "MOVE"]
    let ys := ["left", "move", "report", "PLACE 0,1,SOUTH"]
    s.Completes b (xs ++ ys) ∧
      ∃ c d os ps, s.replay b xs = .ok c ∧ s.replay c ys = .ok d ∧
        s.replay b (xs ++ ys) = .ok d ∧
        (s.run b xs).map outcomes = .ok os ∧ s.LineByLine b xs os ∧
        (s.run c ys).map outcomes = .ok ps ∧
        (s.run b (xs ++ ys)).map outcomes = .ok (os ++ ps.map (Outcome.raised xs.length)) := by
  intro s b xs ys
  have complete : s.Completes b (xs ++ ys) := rfl
  exact ⟨complete, run_composes s b xs ys complete⟩

end Simulator
end GridRobot
