import GridRobot.Proofs.Settings.Flags
import GridRobot.Proofs.Simulator.Record
import GridRobot.Proofs.Simulator.Step
import GridRobot.Proofs.Text.Escape
import Mathlib.Data.List.Forall2
import Mathlib.Tactic.Lemma

/-! With records asked for, a run writes one line for each line it reads, and the one is the record
of what came of the other. -/
namespace GridRobot.Cli

variable {s : Settings} {time : String} {lines : List String} {reports : List StepReport}

/-- The texts on the standard output, in order. -/
def outTexts (es : List Emission) : List String :=
  (es.filter (·.stream = .out)).map Emission.text

lemma outTexts_append (es fs : List Emission) :
    outTexts (es ++ fs) = outTexts es ++ outTexts fs := by
  simp only [outTexts, List.filter_append, List.map_append]

/-- The log goes to the other stream. -/
lemma outTexts_logged (notes : List Note) : outTexts (logged s time notes) = [] := by
  have apart : (logged s time notes).filter (·.stream = .out) = [] := by
    rw [List.filter_eq_nil_iff]
    intro e he
    obtain ⟨event, -, rfl⟩ := List.mem_map.mp he
    simp
  rw [outTexts, apart]
  rfl

/-- What is written for a line is what its outcome says, whatever is logged about it. -/
lemma outTexts_stepEmissions (number : Nat) (t : Step) :
    outTexts (stepEmissions s time number t) =
      outTexts (reportEmissions s (t.report.outcomeAt number)) := by
  rw [stepEmissions, outTexts_append, outTexts_logged, List.nil_append]

/-- The steps of a run write what their outcomes say, whatever number the first of them has. -/
lemma outTexts_steps (number : Nat → Nat) (ts : List Step) :
    outTexts (ts.mapIdx fun i t => stepEmissions s time (number i) t).flatten =
      ((ts.map Step.report).mapIdx fun i r => r.outcomeAt (number i)).flatMap
        fun o => outTexts (reportEmissions s o) := by
  induction ts generalizing number with
  | nil => rfl
  | cons t ts ih =>
    have later := ih fun i => number (i + 1)
    rw [List.mapIdx_cons, List.flatten_cons, outTexts_append, outTexts_stepEmissions, later,
      List.map_cons, List.mapIdx_cons, List.flatMap_cons]

/-- A run writes what the outcomes of its lines say, in order, up to a line that stops it. -/
theorem stdout_runLines (s : Settings) (time : String) (lines : List String) :
    (runLines s time lines).stdout = String.join
      ((Simulator.outcomes
        ((s.simulator.journal s.simulator.initialBoard lines).1.map Step.report)).flatMap
          fun o => outTexts (reportEmissions s o)) := by
  unfold runLines
  generalize s.simulator.journal s.simulator.initialBoard lines = journal
  obtain ⟨ts, fault⟩ := journal
  refine congrArg String.join ?_
  cases fault with
  | some e => exact outTexts_steps (· + 1) ts
  | none =>
    show outTexts (_ ++ _) = _
    rw [outTexts_append, outTexts_logged, List.append_nil]
    exact outTexts_steps (· + 1) ts

/-- How a run ends: with its last line, or at a line that stops it. -/
def endingOf : Option StepFault → Ending
  | none => .exit 0
  | some e => .crash (.line e)

lemma ending_runLines (s : Settings) (time : String) (lines : List String) :
    (runLines s time lines).ending =
      endingOf (s.simulator.journal s.simulator.initialBoard lines).2 := by
  unfold runLines
  generalize s.simulator.journal s.simulator.initialBoard lines = journal
  obtain ⟨ts, fault⟩ := journal
  cases fault <;> rfl

/-- A run that completes writes what the outcomes of all its lines say. -/
theorem runLines_of_run (ran : s.simulator.run s.simulator.initialBoard lines = .ok reports) :
    (runLines s time lines).ending = .exit 0 ∧
      (runLines s time lines).stdout = String.join
        ((Simulator.outcomes reports).flatMap fun o => outTexts (reportEmissions s o)) := by
  obtain ⟨complete, rfl⟩ := Simulator.run_eq_ok_iff.mp ran
  rw [stdout_runLines, ending_runLines, complete]
  exact ⟨rfl, rfl⟩

/-- The record of an outcome is written as it is, and its line is ended. -/
lemma outTexts_of_json (json : s.json = true) {o : Outcome}
    (written : o.WrittenAs (Json.toText .record o.toData)) :
    outTexts (reportEmissions s o) = [Json.toText .record o.toData ++ "\n"] := by
  have absent : Escape.escape ∉ (Json.toText .record o.toData ++ "\n").toList := by
    intro hm
    rcases List.mem_append.mp (String.toList_append ▸ hm) with inside | newline
    · exact absurd (written.visible _ inside) (by decide)
    · exact absurd newline (by decide)
  rw [reportEmissions, if_pos json, Emission.line, Emission.plain,
    Escape.strip_of_not_mem absent, String.ofList_toList]
  rfl

/-- The records of outcomes, one on each line. -/
theorem flatMap_outTexts_of_json (json : s.json = true) {os : List Outcome}
    (written : ∀ o ∈ os, o.WrittenAs (Json.toText .record o.toData)) :
    (os.flatMap fun o => outTexts (reportEmissions s o)) =
      (os.map fun o => Json.toText .record o.toData).map (· ++ "\n") := by
  induction os with
  | nil => rfl
  | cons o os ih =>
    have later := ih fun p hp => written p (List.mem_cons_of_mem _ hp)
    rw [List.flatMap_cons, outTexts_of_json json (written o List.mem_cons_self), later]
    rfl

/-- Every outcome of a run is one of a line. -/
lemma writtenAs_of_mem_outcomes {o : Outcome} (ho : o ∈ Simulator.outcomes reports) :
    o.WrittenAs (Json.toText .record o.toData) := by
  obtain ⟨i, -, rfl⟩ := List.mem_mapIdx.mp ho
  exact StepReport.writtenAs_outcomeAt _ _

end GridRobot.Cli
