import GridRobot.Proofs.Cli.Options
import GridRobot.Proofs.Cli.Records
import GridRobot.Proofs.Settings.Resized
import Mathlib.Tactic.Lemma

/-! Flags for diagnostics decide what is logged, never what is answered or how the program ends. -/
namespace GridRobot

/-- There are no details to show of a success about which nothing else is known. -/
lemma Outcome.plainText_success (operation : String) (data : Members) (verbose wordy : Bool) :
    (success operation data).plainText verbose = (success operation data).plainText wordy := by
  cases verbose <;> cases wordy <;> rfl

/-- The same settings with other diagnostics. -/
def Settings.diagnosed (s : Settings) (verbose logJson : Bool) : Settings :=
  { s with verbose := verbose, logJson := logJson }

@[simp] lemma Settings.simulator_diagnosed (s : Settings) (verbose logJson : Bool) :
    (s.diagnosed verbose logJson).simulator = s.simulator :=
  rfl

namespace Cli

@[simp] lemma reportEmissions_diagnosed (s : Settings) (verbose logJson : Bool) (o : Outcome) :
    reportEmissions (s.diagnosed verbose logJson) o = reportEmissions s o :=
  rfl

/-- Two transcripts have the same answer: what is on the standard output, and the ending. -/
structure Transcript.Agrees (t u : Transcript) : Prop where
  stdout : t.stdout = u.stdout
  ending : t.ending = u.ending

namespace Transcript.Agrees

variable {t u v : Transcript}

lemma refl (t : Transcript) : t.Agrees t := ⟨rfl, rfl⟩

lemma trans (first : t.Agrees u) (later : u.Agrees v) : t.Agrees v :=
  ⟨first.stdout.trans later.stdout, first.ending.trans later.ending⟩

/-- Nothing on the other stream counts. -/
lemma of_err (text text' : String) (ending : Ending) :
    Transcript.Agrees ⟨[.line .err text], ending⟩ ⟨[.line .err text'], ending⟩ := by
  have silent (text : String) : Transcript.stdout ⟨[.line .err text], ending⟩ = "" := rfl
  exact ⟨(silent text).trans (silent text').symm, rfl⟩

end Transcript.Agrees

/-- Two tasks have the same answer on every input, whenever they are done. -/
def Task.Agrees (x y : Task) : Prop :=
  ∀ time time' input, (x.transcript time input).Agrees (y.transcript time' input)

section
variable {i : Invocation} {g h : Globals}

/-- Whatever is logged, the lines of a run have the same answer. -/
lemma runLines_agrees (s : Settings) (verbose logJson : Bool) (time time' : String)
    (lines : List String) :
    (runLines s time lines).Agrees (runLines (s.diagnosed verbose logJson) time' lines) where
  stdout := by
    simp only [stdout_runLines, Settings.simulator_diagnosed, reportEmissions_diagnosed]
  ending := by
    simp only [ending_runLines, Settings.simulator_diagnosed]

lemma Task.Agrees.refl (x : Task) : x.Agrees x := by
  intro time time' input
  cases x with
  | finished t => exact .refl t
  | lines s source => exact runLines_agrees s s.verbose s.logJson time time' _

/-- A record is the same with and without details, and an outcome for people gets longer by them only
where it is a failure, which is shown on the other stream. -/
lemma readLine_agrees (s : Settings) (verbose logJson : Bool) (line : String) :
    (readLine s line).Agrees (readLine (s.diagnosed verbose logJson) line) := by
  unfold readLine
  cases Command.ofLine line with
  | error e => exact .refl _
  | ok reading =>
    obtain ⟨path, json, wordy, structured, size, glyphs⟩ := s
    cases json with
    | true => exact .refl _
    | false =>
      cases reading with
      | ok c =>
        have same := Outcome.plainText_success "parse" c.toMembers wordy verbose
        show Transcript.Agrees ⟨[.line .out (Outcome.plainText _ wordy)], _⟩
          ⟨[.line .out (Outcome.plainText _ verbose)], _⟩
        rw [LineReading.outcome, same]
        exact .refl _
      | error e => exact .of_err _ _ _

lemma parseCommand_agrees (s : Settings) (verbose logJson : Bool) (arguments : List String) :
    (parseCommand s arguments).Agrees (parseCommand (s.diagnosed verbose logJson) arguments) := by
  unfold parseCommand
  cases readOptions parseOptions true arguments with
  | error f => exact .refl _
  | ok p =>
    obtain ⟨given, rest⟩ := p
    simp only
    cases firstInfo? given with
    | some info => exact .refl _
    | none =>
      match rest with
      | [] => exact .refl _
      | [line] => exact readLine_agrees s verbose logJson line
      | _ :: _ :: _ => exact .refl _

lemma resized_diagnosed (s : Settings) (verbose logJson : Bool) (w h : Option Int) :
    (s.diagnosed verbose logJson).resized w h =
      (s.resized w h).map (Settings.diagnosed · verbose logJson) := by
  rw [Settings.resized_eq, Settings.resized_eq, Settings.diagnosed]
  cases Settings.sizeOver s.size w h <;> rfl

lemma runCommand_agrees (t : FileTree) (s : Settings) (verbose logJson : Bool)
    (arguments : List String) :
    (runCommand t s arguments).Agrees (runCommand t (s.diagnosed verbose logJson) arguments) := by
  unfold runCommand
  cases readOptions runOptions true arguments with
  | error f => exact .refl _
  | ok p =>
    obtain ⟨given, rest⟩ := p
    simp only
    cases firstInfo? given with
    | some info => exact .refl _
    | none =>
      cases runArguments t given rest with
      | error f => exact .refl _
      | ok q =>
        obtain ⟨⟨w, h⟩, source⟩ := q
        simp only [resized_diagnosed]
        cases s.resized w h with
        | error r => exact .refl _
        | ok s => exact fun time time' input => runLines_agrees s verbose logJson time time' _

/-- Settings that are asked for with other diagnostics. -/
lemma settings_diagnosed (json : g.json = h.json) (config : g.config = h.config) :
    settings i h = (settings i g).map (Settings.diagnosed · h.verbose h.logJson) := by
  rw [settings_switched i config.symm]
  cases loaded : settings i g with
  | error f => rfl
  | ok s =>
    have same : s.json = h.json := (switches_of_settings loaded).1.trans json
    exact congrArg Except.ok (by rw [Settings.switched, ← same]; rfl)

lemma dispatch_agrees (json : g.json = h.json) (config : g.config = h.config)
    (arguments : List String) : (dispatch i g arguments).Agrees (dispatch i h arguments) := by
  unfold dispatch
  rw [settings_diagnosed json config]
  cases arguments with
  | nil => cases settings i g <;> exact .refl _
  | cons name arguments =>
    simp only
    cases Subcommand.ofName? name with
    | none => exact .refl _
    | some c =>
      cases settings i g with
      | error f => exact .refl _
      | ok s =>
        cases c with
        | run => exact runCommand_agrees i.files s h.verbose h.logJson arguments
        | parse => exact fun _ _ _ => parseCommand_agrees s h.verbose h.logJson arguments

/-- The options that ask for diagnostics. -/
def diagnostics : List String := ["-v", "--verbose", "--log-json"]

/-- The same command line with diagnostics asked for wherever a global option may stand. -/
inductive Louder : List String → List String → Prop
  | same (arguments : List String) : Louder arguments arguments
  | added {arguments front rest : List String} {flag : String}
      (before : Louder arguments (front ++ rest)) (whole : Whole globalOptions none front)
      (mem : flag ∈ diagnostics) : Louder arguments (front ++ flag :: rest)

lemma read_of_mem_diagnostics {flag : String} (mem : flag ∈ diagnostics) :
    flag ≠ "--" ∧ isOption flag = true ∧ ∃ key, key ≠ .json ∧ key ≠ .config ∧
      readOption globalOptions flag.toList = .ok ([⟨.own key, ""⟩], none) := by
  simp only [diagnostics, List.mem_cons, List.not_mem_nil, or_false] at mem
  rcases mem with rfl | rfl | rfl
  · exact ⟨by decide, by decide, .verbose, by decide, by decide, rfl⟩
  · exact ⟨by decide, by decide, .verbose, by decide, by decide, rfl⟩
  · exact ⟨by decide, by decide, .logJson, by decide, by decide, rfl⟩

lemma firstInfo?_insert {κ : Type} (key : κ) (value : String)
    (before after : List (Given (Choice κ))) :
    firstInfo? (before ++ ⟨.own key, value⟩ :: after) = firstInfo? (before ++ after) := by
  simp [firstInfo?, List.findSome?_append]

/-- One more flag for diagnostics is read as such, or not reached at all. -/
lemma task_agrees (i : Invocation) (time : String) {front rest : List String} {flag : String}
    (asked : i.arguments = front ++ rest) (whole : Whole globalOptions none front)
    (mem : flag ∈ diagnostics) :
    (task i).Agrees (task { i with arguments := front ++ flag :: rest, time := time }) := by
  obtain ⟨other, dashed, key, notJson, notConfig, read⟩ := read_of_mem_diagnostics mem
  have added : Adds ⟨.own key, ""⟩ (readFrom globalOptions false none (front ++ rest))
      (readFrom globalOptions false none (front ++ flag :: rest)) :=
    whole.adds other dashed read rest
  unfold task readOptions
  rw [asked]
  generalize readFrom globalOptions false none (front ++ rest) = x at added ⊢
  generalize readFrom globalOptions false none (front ++ flag :: rest) = y at added ⊢
  cases added with
  | fault f => exact .refl _
  | given before after others =>
    simp only [firstInfo?_insert]
    cases firstInfo? (before ++ after) with
    | some info => exact .refl _
    | none =>
      have json : lastValue? (before ++ ⟨.own key, ""⟩ :: after) (.own .json) =
          lastValue? (before ++ after) (.own .json) :=
        lastValue?_insert (fun same => notJson (Choice.own.inj same)) before after
      have config : lastValue? (before ++ ⟨.own key, ""⟩ :: after) (.own .config) =
          lastValue? (before ++ after) (.own .config) :=
        lastValue?_insert (fun same => notConfig (Choice.own.inj same)) before after
      exact dispatch_agrees (congrArg Option.isSome json.symm) config.symm others

/-- Diagnostics never leak: however many flags ask for them, and whenever that is, what is written on
the standard output and how the program ends stay the same. -/
theorem answer_of_louder (i : Invocation) (arguments : List String) (time : String)
    (input : List UInt8) (louder : Louder i.arguments arguments) :
    (program { i with arguments, time } input).stdout = (program i input).stdout ∧
      (program { i with arguments, time } input).ending = (program i input).ending := by
  have agrees : (program i input).Agrees (program { i with arguments, time } input) := by
    induction louder generalizing time with
    | same => exact Task.Agrees.refl (task i) i.time time input
    | added before whole mem ih =>
      exact (ih time).trans
        (task_agrees { i with arguments := _, time } time rfl whole mem time time input)
  exact ⟨agrees.stdout.symm, agrees.ending.symm⟩

/-- A line that is no command, and a report, with everything logged as well. -/
theorem answer_of_louder_run :
    let i : Invocation := ⟨["run"], ⟨fun _ => none, []⟩, [], "", .usual⟩
    let arguments := ["-v", "--log-json", "run"]
    let input := Utf8.encode "fly\nPLACE 0,0,NORTH\nREPORT".toList
    Louder i.arguments arguments ∧
      (program { i with arguments, time := "noon" } input).stderr ≠ (program i input).stderr ∧
      (program { i with arguments, time := "noon" } input).stdout = (program i input).stdout ∧
      (program { i with arguments, time := "noon" } input).ending = (program i input).ending := by
  intro i arguments input
  have whole : Whole globalOptions none ["-v"] := .option (by decide) (by decide) rfl .done
  have once : Louder i.arguments ([] ++ "-v" :: ["run"]) :=
    .added (.same ["run"]) .done (by decide)
  have louder : Louder i.arguments (["-v"] ++ "--log-json" :: ["run"]) :=
    .added once whole (by decide)
  exact ⟨louder, by decide +kernel, answer_of_louder i arguments "noon" input louder⟩

end
end Cli
end GridRobot
