import GridRobot.Cli
import GridRobot.Proofs.Command.Reading
import GridRobot.Proofs.Data.Members
import GridRobot.Proofs.Log
import GridRobot.Proofs.Simulator.Journal
import GridRobot.Proofs.Text.Quoted
import Mathlib.Tactic.Lemma

/-! What is logged about a run follows from its outcomes: a remark on each line that was no command or
whose command was not carried out, and one on the whole. -/
namespace GridRobot

namespace Outcome

/-- The code of what went wrong. -/
def errorCode (o : Outcome) : String := (o.failure.map Failure.code).getD ""

/-- The kind of the command that was run. -/
def commandKind (o : Outcome) : String :=
  match o.command.under? "kind" with
  | some (.text kind) => kind
  | _ => ""

/-- What is to be said about a line with an outcome; nothing if its command was carried out. -/
def remark? (o : Outcome) (line : String) : Option String :=
  if o.ok then
    if o.isCommitted then none
    else some ("Rejected invalid board after " ++ o.commandKind ++ ": " ++ Quoted.quote line)
  else some ("Parse failed (" ++ o.errorCode ++ "): " ++ Quoted.quote line)

end Outcome

/-- What is to be said about a number of lines. -/
def summary (lines : Nat) : String :=
  "Processed " ++ String.ofList (Decimal.ofNat lines) ++ " lines"

namespace Simulator
open Printable

variable {s : Simulator} {b : Board} {line : String} {lines : List String} {t : Step}
  {reports : List StepReport}

/-- The note on a step says what its outcome gives reason to say. -/
lemma Stepped.message_note (h : s.Stepped b line t) (number : Nat) :
    t.note.map Note.message = (t.report.outcomeAt number).remark? line := by
  cases h <;> rfl

lemma throughout_code {e : LineError} (read : Command.ofLine line = .ok (.error e)) :
    Throughout e.code.toList := by
  rcases Command.fault_of_ofLineChars read with rfl | ⟨params, -, rfl⟩
  · exact (by decide +kernel : Throughout "UNRECOGNISED_COMMAND".toList)
  · exact (by decide +kernel : Throughout "BAD_PLACE_PARAMETERS".toList)

lemma throughout_kind (k : Command) : Throughout k.kind.toList := by
  have kinds : ∀ kind ∈ ["place", "move", "rotate", "report", "place_object", "map"],
      Throughout kind.toList := by decide +kernel
  refine kinds k.kind ?_
  cases k <;> simp [Command.kind]

/-- Of a line nothing but its quotation gets into a note. -/
lemma Stepped.throughout_note (h : s.Stepped b line t) {n : Note} (noted : t.note = some n) :
    Throughout n.message.toList := by
  have quoted := Quoted.throughout_quote line
  cases h with
  | failed read =>
    obtain rfl := Option.some.inj noted
    have front : Throughout "Parse failed (".toList := by decide +kernel
    have colon : Throughout "): ".toList := by decide +kernel
    exact ((front.append (throughout_code read)).append colon).append quoted
  | committed _ _ _ => cases noted
  | @rejected k _ _ _ _ =>
    obtain rfl := Option.some.inj noted
    have front : Throughout "Rejected invalid board after ".toList := by decide +kernel
    have colon : Throughout ": ".toList := by decide +kernel
    exact ((front.append (throughout_kind k)).append colon).append quoted

lemma throughout_finished (count : Nat) : Throughout (Note.finished count).message.toList := by
  have digits : Throughout (String.ofList (Decimal.ofNat count)).toList := by
    intro c hc
    rw [String.toList_ofList] at hc
    obtain ⟨low, high⟩ := Json.graphic_of_isDigit (Decimal.isDigit_of_mem_ofNat hc)
    exact isPrintable_of_ascii low high
  have front : Throughout "Processed ".toList := by decide +kernel
  have behind : Throughout " lines".toList := by decide +kernel
  exact (front.append digits).append behind

lemma journal_cons (step : s.step b line = .ok t) :
    (s.journal b (line :: lines)).1 = t :: (s.journal t.board lines).1 := by
  simp only [journal, step]

/-- The steps of a run are noted as their outcomes give reason to, however these are numbered. -/
theorem messages_of_run (ran : s.run b lines = .ok reports) (number : Nat → Nat) :
    ((s.journal b lines).1.filterMap Step.note).map Note.message =
      ((reports.mapIdx fun i r => r.outcomeAt (number i)).zip lines).filterMap
        fun p => p.1.remark? p.2 := by
  induction lines generalizing b reports number with
  | nil =>
    cases ran
    rfl
  | cons line lines ih =>
    obtain ⟨t, rest, step, later, rfl⟩ := run_cons_eq_ok_iff.mp ran
    have here := (step_eq_ok_iff.mp step).message_note (number 0)
    rw [journal_cons step, List.filterMap_cons, List.mapIdx_cons, List.zip_cons_cons,
      List.filterMap_cons, ← ih later fun i => number (i + 1), ← here]
    cases t.note <;> rfl

/-- No step of a run is noted in characters that are not printable. -/
theorem throughout_notes (complete : s.Completes b lines) :
    ∀ n ∈ (s.journal b lines).1.filterMap Step.note, Throughout n.message.toList := by
  induction lines generalizing b with
  | nil => nofun
  | cons line lines ih =>
    obtain ⟨t, step, later⟩ := completes_cons_iff.mp complete
    intro n hn
    rw [journal_cons step, List.mem_filterMap] at hn
    obtain ⟨u, hu, noted⟩ := hn
    rcases List.mem_cons.mp hu with rfl | behind
    · exact (step_eq_ok_iff.mp step).throughout_note noted
    · exact ih later n (List.mem_filterMap.mpr ⟨u, behind, noted⟩)

lemma notes_of_completes (complete : s.Completes b lines) :
    s.notes b lines =
      .ok ((s.journal b lines).1.filterMap Step.note ++ [.finished lines.length]) := by
  unfold Completes at complete
  unfold notes
  cases journal : s.journal b lines with
  | mk ts fault =>
    obtain rfl : fault = none := by rw [← complete, journal]
    rfl

end Simulator

namespace Cli

/-- An event in the log of a run that is meant for debugging. -/
def debugged (message : String) : Log.Event := ⟨runLogger, Log.debug, message⟩

/-- From the outcomes of a run and its lines follows all that is logged about it, in order, and no line
can break the log into more lines than that. -/
theorem log_follows_outcomes (s : Simulator) (b : Board) (lines : List String)
    (reports : List StepReport) (ran : s.run b lines = .ok reports) :
    ∃ notes, s.notes b lines = .ok notes ∧
      notes.map event =
        (((Simulator.outcomes reports).zip lines).filterMap (fun p => p.1.remark? p.2) ++
          [summary lines.length]).map debugged ∧
      ∀ n ∈ notes, (∀ c ∈ n.message.toList, 0x20 ≤ c.toNat ∧ c.toNat ≠ 0x7f) ∧
        ∀ o time, '\n' ∉ time.toList → Log.IsLine (Log.line o time (event n)) := by
  have complete := Simulator.completes_iff_run.mpr ⟨reports, ran⟩
  refine ⟨_, Simulator.notes_of_completes complete, ?_, fun n hn => ?_⟩
  · have messages := Simulator.messages_of_run ran (· + 1)
    rw [Simulator.outcomes, ← messages, List.map_append, List.map_append, List.map_map]
    rfl
  · have printable : Printable.Throughout n.message.toList := by
      rcases List.mem_append.mp hn with step | last
      · exact Simulator.throughout_notes complete n step
      · rw [List.mem_singleton.mp last]
        exact Simulator.throughout_finished lines.length
    have uncontrolled : ∀ c ∈ n.message.toList, 0x20 ≤ c.toNat ∧ c.toNat ≠ 0x7f :=
      fun c hc => Printable.not_control_of_isPrintable (printable c hc)
    refine ⟨uncontrolled, fun o time timed => Log.isLine_line o timed (fun broken => ?_) ?_⟩
    · exact absurd (uncontrolled '\n' broken) (by decide)
    · exact (by decide +kernel : '\n' ∉ runLogger.toList)

/-- Lines with control characters and quotes in them, one of them no command and one with a bad
placement, and a robot that is about to leave the board. -/
theorem log_follows_outcomes_of_controls :
    let s : Simulator := ⟨.standard, .standard⟩
    let lines := ["fly\n'\x1b[0m", "place 0,\"0\"", "PLACE 0,0,SOUTH", "MOVE"]
    ∃ reports, s.run s.initialBoard lines = .ok reports ∧
      ∃ notes, s.notes s.initialBoard lines = .ok notes ∧
        notes.map event =
          (((Simulator.outcomes reports).zip lines).filterMap (fun p => p.1.remark? p.2) ++
            [summary 4]).map debugged := by
  intro s lines
  have complete : s.Completes s.initialBoard lines := rfl
  obtain ⟨reports, ran⟩ := Simulator.completes_iff_run.mp complete
  obtain ⟨notes, noted, events, -⟩ :=
    log_follows_outcomes s s.initialBoard lines reports ran
  exact ⟨reports, ran, notes, noted, events⟩

end Cli
end GridRobot
