import GridRobot.Proofs.Cli.Records
import GridRobot.Proofs.Log
import GridRobot.Proofs.Settings.Resized
import GridRobot.Proofs.Text.Escape
import Mathlib.Data.List.Basic
import Mathlib.Tactic.Lemma

/-! A run tells the same in text as in records: what the records put out stands on the one stream, and
what went wrong in them on the other. -/
namespace GridRobot

namespace Outcome

/-- What a success puts out, where that is text. -/
def answer? (o : Outcome) : Option String :=
  if o.ok then
    match o.data.get? "output" with
    | some (.text t) => some t
    | _ => none
  else none

/-- What is said of a failure. -/
def complaint? (o : Outcome) : Option String :=
  if o.ok then none else o.failure.map Failure.message

end Outcome

namespace Cli

/-- A text on a line of its own, without control sequences. -/
def echo (text : String) : String := String.ofList (Escape.strip text.toList) ++ "\n"

lemma line_eq_echo (stream : Stream) (text : String) :
    Emission.line stream text = ⟨stream, echo text⟩ := by
  have newline : (text ++ "\n").toList = text.toList ++ ['\n'] := String.toList_append
  rw [Emission.line, Emission.plain, newline, Escape.strip_concat_newline, String.ofList_append]
  rfl

/-- A transcript that has the records of outcomes, one on each line, and nothing else. -/
structure Transcript.Records (t : Transcript) (os : List Outcome) : Prop where
  ending : t.ending = .exit 0
  stderr : t.stderr = ""
  stdout : ∃ texts, t.stdout = String.join (texts.map (· ++ "\n")) ∧
    List.Forall₂ Outcome.WrittenAs os texts

/-- A transcript that tells for people what outcomes are. -/
structure Transcript.Tells (t : Transcript) (os : List Outcome) : Prop where
  ending : t.ending = .exit 0
  stdout : t.stdout = String.join ((os.filterMap Outcome.answer?).map echo)
  stderr : t.stderr = String.join ((os.filterMap Outcome.complaint?).map echo)

/-- A command line asks for a run: its global options are these, and in the options and arguments of
the run stand this size, if any is given, and this source of lines. -/
inductive Invocation.AsksRun (i : Invocation) (g : Globals) (size : Option Int × Option Int)
    (source : Source) : Prop
  | intro {given : List (Given (Choice GlobalOption))} {own : List (Given (Choice RunOption))}
      {arguments rest : List String}
      (before : readOptions globalOptions false i.arguments = .ok (given, "run" :: arguments))
      (noInfo : firstInfo? given = none) (flags : Globals.ofGiven given = g)
      (after : readOptions runOptions true arguments = .ok (own, rest))
      (noOwnInfo : firstInfo? own = none)
      (values : runArguments i.files own rest = .ok (size, source))

section
variable {i : Invocation} {s : Settings} {time : String} {lines : List String}
  {reports : List StepReport} {os : List Outcome}

/-- Notes on lines are too slight to be logged, unless that is asked for. -/
lemma logged_of_quiet (quiet : s.verbose = false) (notes : List Note) : logged s time notes = [] := by
  have slight (n : Note) : ¬ Log.warning ≤ (event n).level := by
    have order : ¬ Log.warning ≤ Log.debug := by decide
    rwa [event]
  rw [logged, Log.written_of_quiet quiet, List.map_eq_nil_iff, List.filter_eq_nil_iff]
  intro e he
  obtain ⟨n, -, rfl⟩ := List.mem_map.mp he
  exact decide_eq_true_iff.not.mpr (slight n)

lemma stepEmissions_of_quiet (quiet : s.verbose = false) (number : Nat) (t : Step) :
    stepEmissions s time number t = reportEmissions s (t.report.outcomeAt number) := by
  rw [stepEmissions, logged_of_quiet quiet, List.nil_append]

/-- Without a log, a run that completes writes what its outcomes say on either stream. -/
theorem runLines_of_quiet (quiet : s.verbose = false)
    (ran : s.simulator.run s.simulator.initialBoard lines = .ok reports) :
    runLines s time lines =
      ⟨(Simulator.outcomes reports).flatMap (reportEmissions s), .exit 0⟩ := by
  obtain ⟨complete, rfl⟩ := Simulator.run_eq_ok_iff.mp ran
  have numbered (ts : List Step) :
      (ts.mapIdx fun i t => reportEmissions s (t.report.outcomeAt (i + 1))) =
        (Simulator.outcomes (ts.map Step.report)).map (reportEmissions s) := by
    apply List.ext_getElem?
    intro k
    simp only [Simulator.outcomes, List.getElem?_mapIdx, List.getElem?_map, Option.map_map]
    rfl
  rw [Simulator.Completes] at complete
  simp only [runLines, complete, stepEmissions_of_quiet quiet, logged_of_quiet quiet,
    List.append_nil, numbered, List.flatMap_def]

/-- What is written to a stream, if for each outcome it is one text or none. -/
lemma written_flatMap {stream : Stream} {write : Outcome → List Emission}
    {text? : Outcome → Option String} (ending : Ending)
    (one : ∀ o ∈ os, ((write o).filter (·.stream = stream)).map Emission.text =
      ((text? o).map echo).toList) :
    Transcript.written ⟨os.flatMap write, ending⟩ stream =
      String.join ((os.filterMap text?).map echo) := by
  rw [Transcript.written, List.filter_flatMap, List.map_flatMap, List.flatMap_congr one,
    List.map_filterMap, List.filterMap_eq_flatMap_toList]

lemma reportEmissions_of_text (text : s.json = false) (r : StepReport) (number : Nat) :
    reportEmissions s (r.outcomeAt number) =
      ((r.outcomeAt number).answer?.map fun t => ⟨.out, echo t⟩).toList ++
        ((r.outcomeAt number).complaint?.map fun t => ⟨.err, echo t⟩).toList := by
  have plain : reportEmissions s (r.outcomeAt number) = ((r.outcomeAt number).spoken.map fun t =>
      Emission.line (if (r.outcomeAt number).ok then .out else .err) t).toList := by
    rw [reportEmissions, if_neg (by rw [text]; decide)]
  simp only [plain, line_eq_echo]
  cases r with
  | failed e => rfl
  | ran c output committed => cases output <;> rfl

/-- In text, a run tells what its outcomes are. -/
theorem tells_of_run (text : s.json = false) (quiet : s.verbose = false)
    (ran : s.simulator.run s.simulator.initialBoard lines = .ok reports) :
    (runLines s time lines).Tells (Simulator.outcomes reports) := by
  rw [runLines_of_quiet quiet ran]
  have split (o : Outcome) (ho : o ∈ Simulator.outcomes reports) : reportEmissions s o =
      (o.answer?.map fun t => ⟨.out, echo t⟩).toList ++
        (o.complaint?.map fun t => ⟨.err, echo t⟩).toList := by
    obtain ⟨k, -, rfl⟩ := List.mem_mapIdx.mp ho
    exact reportEmissions_of_text text _ _
  refine ⟨rfl, written_flatMap _ fun o ho => ?_, written_flatMap _ fun o ho => ?_⟩
  all_goals
    rw [split o ho]
    cases o.answer? <;> cases o.complaint? <;> rfl

/-- Else it has the records of them. -/
theorem records_of_run (json : s.json = true) (quiet : s.verbose = false)
    (ran : s.simulator.run s.simulator.initialBoard lines = .ok reports) :
    (runLines s time lines).Records (Simulator.outcomes reports) := by
  have written : ∀ o ∈ Simulator.outcomes reports, o.WrittenAs (Json.toText .record o.toData) :=
    fun _ ho => writtenAs_of_mem_outcomes ho
  refine ⟨(runLines_of_run ran).1, ?_,
    (Simulator.outcomes reports).map fun o => Json.toText .record o.toData, ?_, ?_⟩
  · have silent (o : Outcome) :
        ((reportEmissions s o).filter (·.stream = .err)).map Emission.text = [] := by
      rw [reportEmissions, if_pos json]
      rfl
    rw [runLines_of_quiet quiet ran, Transcript.stderr, Transcript.written, List.filter_flatMap,
      List.map_flatMap, List.flatMap_eq_nil_iff.mpr fun o _ => silent o]
    rfl
  · rw [(runLines_of_run ran).2, flatMap_outTexts_of_json json written]
  · rw [List.forall₂_map_right_iff, List.forall₂_same]
    exact written

lemma positive_of_sizeOption {given : List (Given (Choice RunOption))} {o : RunOption}
    {size : Option Int} (read : sizeOption given o = .ok size) : ∀ n ∈ size, 1 ≤ n := by
  rintro n rfl
  rw [sizeOption] at read
  split at read
  · cases read
  · obtain ⟨m, valid, same⟩ := map_eq_ok_iff.mp read
    cases same
    rw [sizeValue] at valid
    split at valid
    · cases valid
    · split at valid
      · rename_i positive
        cases valid
        exact positive
      · cases valid

/-- The sizes on a command line are positive, whichever of them is checked first. -/
lemma positive_of_sizes {given : List (Given (Choice RunOption))} {size : Option Int × Option Int}
    (read : sizes given = .ok size) : (∀ n ∈ size.1, 1 ≤ n) ∧ ∀ n ∈ size.2, 1 ≤ n := by
  rw [sizes] at read
  split at read
  · obtain ⟨h, tall, read⟩ := bind_eq_ok_iff.mp read
    obtain ⟨w, wide, same⟩ := bind_eq_ok_iff.mp read
    cases same
    exact ⟨positive_of_sizeOption wide, positive_of_sizeOption tall⟩
  · obtain ⟨w, wide, read⟩ := bind_eq_ok_iff.mp read
    obtain ⟨h, tall, same⟩ := bind_eq_ok_iff.mp read
    cases same
    exact ⟨positive_of_sizeOption wide, positive_of_sizeOption tall⟩

lemma sizes_of_runArguments {t : FileTree} {own : List (Given (Choice RunOption))}
    {rest : List String} {size : Option Int × Option Int} {source : Source}
    (read : runArguments t own rest = .ok (size, source)) : sizes own = .ok size := by
  obtain ⟨w, sized, read⟩ := bind_eq_ok_iff.mp read
  obtain ⟨from', -, read⟩ := bind_eq_ok_iff.mp read
  split at read
  · cases read
  · cases read
    exact sized

/-- With settings, a run that is asked for is left to do, on a board of the size asked for. -/
lemma Invocation.AsksRun.task {size : Option Int × Option Int} {source : Source} {g : Globals}
    (asked : i.AsksRun g size source) (loaded : settings i g = .ok s) :
    ∃ z, s.resized size.1 size.2 = .ok { s with size := z } ∧
      task i = .lines { s with size := z } source := by
  obtain ⟨before, noInfo, rfl, after, noOwnInfo, values⟩ := asked
  obtain ⟨columns, rows⟩ := positive_of_sizes (sizes_of_runArguments values)
  obtain ⟨z, sized⟩ := s.exists_resized columns rows
  refine ⟨z, sized, ?_⟩
  have named : Subcommand.ofName? "run" = some .run := by decide
  simp only [Cli.task, before, noInfo, dispatch, named, loaded, runCommand, after, noOwnInfo,
    values, sized]

/-- With the same files, environment, configuration and size, the records of a run and the texts of it
tell the same story, on any lines of which none stops the run. -/
theorem modes_agree (i : Invocation) (arguments : List String) (time : String)
    (input : List UInt8) (config : Option String) (logJson logJson' : Bool)
    (size : Option Int × Option Int) (source : Source) (s : Settings)
    (asked : i.AsksRun ⟨false, false, logJson, config⟩ size source)
    (recorded : { i with arguments, time }.AsksRun ⟨true, false, logJson', config⟩ size source)
    (loaded : settings i ⟨false, false, logJson, config⟩ = .ok s)
    (complete : ∀ t, s.resized size.1 size.2 = .ok t →
      t.simulator.Completes t.simulator.initialBoard (Line.ofBytes (source.bytes input))) :
    ∃ os, (program { i with arguments, time } input).Records os ∧ (program i input).Tells os := by
  obtain ⟨z, sized, textTask⟩ := asked.task loaded
  obtain ⟨text, quiet, -⟩ := switches_of_settings loaded
  have loaded' : settings { i with arguments, time } ⟨true, false, logJson', config⟩ =
      .ok (s.switched ⟨true, false, logJson', config⟩) := by
    have switched : settings i ⟨true, false, logJson', config⟩ =
        (settings i ⟨false, false, logJson, config⟩).map _ := settings_switched i rfl
    rw [loaded] at switched
    exact switched
  obtain ⟨z', sized', jsonTask⟩ := recorded.task loaded'
  -- The switches have no part in the size, so both runs are of one simulator.
  have same := sized'.symm.trans (Settings.resized_switched _ s size.1 size.2)
  rw [sized] at same
  rw [Except.ok.inj same] at jsonTask
  obtain ⟨reports, ran⟩ := Simulator.completes_iff_run.mp (complete _ sized)
  refine ⟨Simulator.outcomes reports, ?_, ?_⟩
  · rw [program, jsonTask]
    exact records_of_run rfl rfl ran
  · rw [program, textTask]
    exact tells_of_run text quiet ran

/-- A map of two columns, and a line of a control sequence, a quote and a byte that is no text. -/
theorem modes_agree_map :
    let i : Invocation := ⟨["run", "--width", "2"], ⟨fun _ => none, []⟩,
      [("TOYROBOT_BOARD__WIDTH", "9"), ("TOYROBOT_MAP__EMPTY", "\"")], "", .usual⟩
    let j : Invocation := { i with arguments := ["--log-json", "--json", "run", "--width=2", "-"] }
    let commands := Utf8.encode "PLACE 1,1,NORTH\r\nPLACE_OBJECT\nMAP\n".toList
    let input := commands ++ [0x1b, 0x5b, 0x6d, 0x22, 0xff]
    let s : Settings := ⟨none, false, false, false, ⟨⟨9, by decide⟩, ⟨5, by decide⟩⟩, ⟨'"', 'X'⟩⟩
    i.AsksRun ⟨false, false, false, none⟩ (some 2, none) .input ∧
      j.AsksRun ⟨true, false, true, none⟩ (some 2, none) .input ∧
      settings i ⟨false, false, false, none⟩ = .ok s ∧
      (∀ t, s.resized (some 2) none = .ok t →
        t.simulator.Completes t.simulator.initialBoard (Line.ofBytes input)) ∧
      (program i input).stdout ≠ "" ∧ (program i input).stderr ≠ "" ∧
      ∃ os, (program j input).Records os ∧ (program i input).Tells os := by
  intro i j commands input s
  have asked : i.AsksRun ⟨false, false, false, none⟩ (some 2, none) .input :=
    .intro rfl rfl rfl rfl rfl rfl
  have recorded : j.AsksRun ⟨true, false, true, none⟩ (some 2, none) .input :=
    .intro rfl rfl rfl rfl rfl rfl
  have loaded : settings i ⟨false, false, false, none⟩ = .ok s := by decide +kernel
  have complete : ∀ t, s.resized (some 2) none = .ok t →
      t.simulator.Completes t.simulator.initialBoard (Line.ofBytes input) := by
    intro t sized
    cases sized
    unfold Simulator.Completes
    decide +kernel
  exact ⟨asked, recorded, loaded, complete, by decide +kernel, by decide +kernel,
    modes_agree i j.arguments "" input none false true (some 2, none) .input s asked recorded
      loaded complete⟩

end
end Cli
end GridRobot
