import GridRobot.Proofs.Cli.Modes
import GridRobot.Proofs.Command.Reading
import Mathlib.Tactic.Lemma

/-! A line that is only read: what it is read as decides how the program ends and on which stream it
answers, and as a record the answer holds all that the reading is. -/
namespace GridRobot

namespace LineReading

/-- Commands are shown on the standard output, and errors on the other stream. -/
def stream : LineReading → Cli.Stream
  | .ok _ => .out
  | .error _ => .err

/-- The exit code that stands for a reading. -/
def exitCode : LineReading → Nat
  | .ok _ => 0
  | .error _ => 1

end LineReading

/-- A failure that keeps the text at fault and ends its message with it: by its code, that is a whole
line, or what is left of the line without its first six characters. -/
def Failure.Keeps (f : Failure) (line : String) : Prop :=
  ∃ raw, f.detail.get? "raw" = some (.text raw) ∧ raw.toList <:+ f.message.toList ∧
    (f.code = "UNRECOGNISED_COMMAND" ∧ raw = line ∨
      f.code = "BAD_PLACE_PARAMETERS" ∧ raw.toList = line.toList.drop 6)

lemma toList_suffix_append (text raw : String) : raw.toList <:+ (text ++ raw).toList :=
  ⟨text.toList, String.toList_append.symm⟩

/-- No part of a line is lost when the line is no command. -/
theorem LineError.keeps_failure {line : String} {e : LineError}
    (read : Command.ofLine line = .ok (.error e)) : e.failure.Keeps line := by
  rcases Command.fault_of_ofLineChars read with rfl | ⟨params, after, rfl⟩
  · rw [String.ofList_toList]
    refine ⟨line, rfl, ?_, .inl ⟨rfl, rfl⟩⟩
    rw [failure, Command.message_unrecognised]
    exact toList_suffix_append _ _
  · have rest : params = line.toList.drop 6 := (Command.afterPlace_iff.mp after).2
    refine ⟨String.ofList params, rfl, ?_, .inr ⟨rfl, String.toList_ofList.trans rest⟩⟩
    rw [failure, Command.message_badPlace]
    exact toList_suffix_append _ _

namespace Cli

/-- The program ends well, and says something on the standard output only. -/
structure Transcript.Accepts (t : Transcript) : Prop where
  ending : t.ending = .exit 0
  stdout : t.stdout ≠ ""
  stderr : t.stderr = ""

/-- The program ends with a failure, and says something on the other stream only. -/
structure Transcript.Refuses (t : Transcript) : Prop where
  ending : t.ending = .exit 1
  stdout : t.stdout = ""
  stderr : t.stderr ≠ ""

/-- What follows the program's name where it is asked how a line is read, as a record or not, and with
details or not. -/
def readingArguments (json verbose : Bool) (line : String) : List String :=
  (if json then ["--json"] else []) ++ (if verbose then ["-v"] else []) ++ ["parse", "--", line]

section
variable {i : Invocation} {s : Settings} {json verbose : Bool} {line : String}
  {reading : LineReading}

lemma echo_ne_empty (text : String) : echo text ≠ "" := by
  intro empty
  have last := congrArg String.toList empty
  rw [echo, String.toList_append] at last
  simp at last

/-- A record on several lines is written as it is. -/
lemma echo_indented {x : Data} (plain : x.IsPlain none) :
    echo (Json.toText .indented x) = Json.toText .indented x ++ "\n" := by
  have absent : Escape.escape ∉ (Json.toText .indented x).toList := by
    intro hm
    rw [Json.toText, String.toList_ofList] at hm
    exact absurd (Json.indented_within.write x 0 plain _ hm) (by decide)
  rw [echo, Escape.strip_of_not_mem absent, String.ofList_toList]

/-- What is written about a reading stands on its stream alone. -/
lemma readLine_eq (read : Command.ofLine line = .ok reading) :
    ∃ text, reading.outcome.render ⟨s.json, s.verbose⟩ = .ok text ∧
      readLine s line = ⟨[⟨reading.stream, echo text⟩], .exit reading.exitCode⟩ := by
  have rendered : ∃ text, reading.outcome.render ⟨s.json, s.verbose⟩ = .ok text := by
    cases s.json with
    | true => exact ⟨_, Outcome.render_json reading.write_outcome s.verbose⟩
    | false => exact ⟨_, rfl⟩
  obtain ⟨text, rendered⟩ := rendered
  refine ⟨text, rendered, ?_⟩
  simp only [readLine, read, rendered, line_eq_echo]
  cases reading <;> rfl

/-- With these arguments and settings, the line is read, whatever it looks like. -/
lemma program_of_readingArguments (asked : i.arguments = readingArguments json verbose line)
    (loaded : settings i ⟨json, verbose, false, none⟩ = .ok s) (input : List UInt8) :
    program i input = readLine s line := by
  have options : ∃ given, readOptions globalOptions false i.arguments =
      .ok (given, ["parse", "--", line]) ∧ firstInfo? given = none ∧
        Globals.ofGiven given = ⟨json, verbose, false, none⟩ := by
    rw [asked]
    cases json <;> cases verbose <;> exact ⟨_, rfl, rfl, rfl⟩
  obtain ⟨given, before, noInfo, flags⟩ := options
  have named : Subcommand.ofName? "parse" = some .parse := by decide
  have behind : readOptions parseOptions true ["--", line] = .ok ([], [line]) := rfl
  simp only [program, task, before, noInfo, flags, dispatch, named, loaded, parseCommand, behind]
  rfl

/-- What stands on a stream of a transcript with one text only. -/
lemma written_single (stream : Stream) (text : String) (ending : Ending) :
    Transcript.written ⟨[⟨stream, text⟩], ending⟩ stream = text := by
  simp [Transcript.written, String.join]

lemma accepts_iff {text : String} :
    Transcript.Accepts ⟨[⟨reading.stream, echo text⟩], .exit reading.exitCode⟩ ↔
      ∃ c, reading = .ok c := by
  cases reading with
  | error e =>
    constructor
    · intro accepts
      cases accepts.ending
    · rintro ⟨c, ⟨⟩⟩
  | ok c =>
    refine ⟨fun _ => ⟨c, rfl⟩, fun _ => ⟨rfl, ?_, rfl⟩⟩
    exact ne_of_eq_of_ne (written_single .out _ _) (echo_ne_empty text)

lemma refuses_iff {text : String} :
    Transcript.Refuses ⟨[⟨reading.stream, echo text⟩], .exit reading.exitCode⟩ ↔
      ∃ e, reading = .error e := by
  cases reading with
  | ok c =>
    constructor
    · intro refuses
      cases refuses.ending
    · rintro ⟨e, ⟨⟩⟩
  | error e =>
    refine ⟨fun _ => ⟨e, rfl⟩, fun _ => ⟨rfl, rfl, ?_⟩⟩
    exact ne_of_eq_of_ne (written_single .err _ _) (echo_ne_empty text)

/-- How the program ends and where it answers follows from the reading of the line, and a record that
is asked for holds the reading, with all of the line that is needed to tell what is wrong. -/
theorem program_follows_reading (i : Invocation) (json verbose : Bool) (line : String)
    (s : Settings) (input : List UInt8) (reading : LineReading)
    (asked : i.arguments = readingArguments json verbose line)
    (loaded : settings i ⟨json, verbose, false, none⟩ = .ok s)
    (read : Command.ofLine line = .ok reading) :
    ((program i input).Accepts ↔ ∃ c, reading = .ok c) ∧
    ((program i input).Refuses ↔ ∃ e, reading = .error e) ∧
    (json = true →
      Json.decode? ((program i input).written reading.stream) = some reading.outcome.toData ∧
        Outcome.ofData reading.outcome.toData = .ok reading.outcome) ∧
    ∀ e, reading = .error e → ∃ f, reading.outcome.failure = some f ∧ f.Keeps line := by
  obtain ⟨text, rendered, shown⟩ := readLine_eq (s := s) read
  rw [program_of_readingArguments asked loaded, shown]
  refine ⟨accepts_iff, refuses_iff, ?_, ?_⟩
  · rintro rfl
    have record : text = Json.toText .indented reading.outcome.toData := by
      rw [(switches_of_settings loaded).1, Outcome.render_json reading.write_outcome] at rendered
      exact (Except.ok.inj rendered).symm
    have blank : ("\n" : String).toList.all Json.isBlank := by decide
    refine ⟨?_, Outcome.ofData_toData _⟩
    rw [written_single, record, echo_indented reading.isPlain_outcome]
    exact Json.decode?_toText_append (Json.Style.standard_of_mem _ (by simp))
      reading.isPlain_outcome blank
  · rintro e rfl
    exact ⟨e.failure, rfl, LineError.keeps_failure read⟩

/-- A placement that lacks a heading, and has a quote, braces and a control sequence in it, where the
environment asks for another size and the command line for a record with details. -/
theorem program_follows_reading_of_controls :
    let line := "pLACE 1,\"\x1b[0m\x7braw\x7d"
    let i : Invocation := ⟨["--json", "-v", "parse", "--", line], ⟨fun _ => none, []⟩,
      [("TOYROBOT_BOARD__WIDTH", "2")], "", .usual⟩
    let s : Settings :=
      ⟨none, true, true, false, ⟨⟨2, by decide⟩, ⟨5, by decide⟩⟩, .standard⟩
    let e := LineError.badPlace "1,\"\x1b[0m\x7braw\x7d"
    settings i ⟨true, true, false, none⟩ = .ok s ∧ Command.ofLine line = .ok (.error e) ∧
      (program i []).Refuses ∧
      Json.decode? (program i []).stderr = some (LineReading.outcome (.error e)).toData ∧
      e.failure.Keeps line := by
  intro line i s e
  have loaded : settings i ⟨true, true, false, none⟩ = .ok s := by decide +kernel
  have read : Command.ofLine line = .ok (.error e) := by decide +kernel
  obtain ⟨-, refuses, decoded, kept⟩ :=
    program_follows_reading i true true line s [] (.error e) rfl loaded read
  obtain ⟨f, same, keeps⟩ := kept e rfl
  cases same
  exact ⟨loaded, read, refuses.mpr ⟨e, rfl⟩, (decoded rfl).1, keeps⟩

end
end Cli
end GridRobot
