import GridRobot.Cli.Transcript
import GridRobot.Cli.Usage
import GridRobot.Log
import GridRobot.Outcome.Rendering
import GridRobot.Simulator.Outcome
import GridRobot.Text.Line
import GridRobot.Text.TypedInteger

/-! The program from its command line to what it writes. -/
namespace GridRobot.Cli

/-- All that a run of the program can see, apart from its input. -/
structure Invocation where
  arguments : List String
  files : FileTree
  environment : Environment
  /-- The time that is written to the log. -/
  time : String
  /-- What the readers of the configuration and of the variables put up with. -/
  limits : Limits

/-- The options before the subcommand. -/
structure Globals where
  json : Bool
  verbose : Bool
  logJson : Bool
  config : Option String
  deriving DecidableEq, Repr

def Globals.ofGiven (given : List (Given (Choice GlobalOption))) : Globals where
  json := (lastValue? given (.own .json)).isSome
  verbose := (lastValue? given (.own .verbose)).isSome
  logJson := (lastValue? given (.own .logJson)).isSome
  config := lastValue? given (.own .config)

/-- Flags are always passed on, so the environment never decides them. -/
def Globals.flags (g : Globals) : Members := [
  ("json_output", .bool g.json),
  ("verbose", .bool g.verbose),
  ("log_json", .bool g.logJson)]

def shown (text : String) : Transcript := ⟨[.plain .out text], .exit 0⟩

/-- Misuse is explained, but a path that cannot be looked for ends the program at once. -/
def misused (p : Place) : UsageFault → Transcript
  | .noInput path .nullCharacter => .crashed (.file ⟨path, .nullCharacter⟩)
  | f => ⟨[.plain .err (f.text p)], .exit 2⟩

/-- A file that is no configuration is reported; all else that goes wrong with settings is not. -/
def unsettled : Settings.Fault → Transcript
  | .config p (.unusable .malformed) => reported ("Invalid TOML in " ++ p.text)
  | .config p (.unusable (.rejected _)) => reported ("Invalid config in " ++ p.text)
  | f => .crashed (.settings f)
where
  reported (message : String) : Transcript := ⟨[.line .err ("Error: " ++ message)], .exit 1⟩

def logOptions (s : Settings) : Log.Options := ⟨s.verbose, s.logJson⟩

/-- The logger of the simulator. -/
def runLogger : String := Log.ownLogger ++ ".services.simulation"

def event (n : Note) : Log.Event := ⟨runLogger, Log.debug, n.message⟩

def logged (s : Settings) (time : String) (notes : List Note) : List Emission :=
  (Log.written (logOptions s) (notes.map event)).map fun e =>
    ⟨.err, Log.line (logOptions s) time e⟩

/-- One record in JSON mode; else the output, or what went wrong on the other stream. -/
def reportEmissions (s : Settings) (o : Outcome) : List Emission :=
  if s.json then [.line .out (Json.toText .record o.toData)]
  else (o.spoken.map fun text => .line (if o.ok then .out else .err) text).toList

/-- The note on a line is logged before the line is answered. -/
def stepEmissions (s : Settings) (time : String) (number : Nat) (t : Step) : List Emission :=
  logged s time t.note.toList ++ reportEmissions s (t.report.outcomeAt number)

/-- Runs lines on the empty board. -/
def runLines (s : Settings) (time : String) (lines : List String) : Transcript :=
  let journal := s.simulator.journal s.simulator.initialBoard lines
  let steps := (journal.1.mapIdx fun i t => stepEmissions s time (i + 1) t).flatten
  match journal.2 with
  | none => ⟨steps ++ logged s time [.finished lines.length], .exit 0⟩
  | some e => ⟨steps, .crash (.line e)⟩

/-- The value of a size option must be a positive integer. -/
def sizeValue (o : RunOption) (value : String) : Except UsageFault Int :=
  match TypedInteger.ofText? value with
  | none => .error (.notInteger o.name value)
  | some n => if 1 ≤ n then .ok n else .error (.notPositive o.name n)

def sizeOption (given : List (Given (Choice RunOption))) (o : RunOption) :
    Except UsageFault (Option Int) :=
  match lastValue? given (.own o) with
  | none => .ok none
  | some value => (sizeValue o value).map some

/-- Both size options are checked, the one that is given first before the other. -/
def sizes (given : List (Given (Choice RunOption))) :
    Except UsageFault (Option Int × Option Int) :=
  match given.head?.map Given.key with
  | some (.own .height) => do
    let h ← sizeOption given .height
    let w ← sizeOption given .width
    return (w, h)
  | _ => do
    let w ← sizeOption given .width
    let h ← sizeOption given .height
    return (w, h)

/-- Where the lines to run come from. -/
inductive Source where
  | input
  | file (bytes : List UInt8)
  deriving DecidableEq, Repr

def Source.bytes (input : List UInt8) : Source → List UInt8
  | .input => input
  | .file bytes => bytes

/-- A dash or no argument stands for the input. -/
def source (t : FileTree) (path : Option String) : Except UsageFault Source :=
  match path with
  | none => .ok .input
  | some p =>
    if p = "-" then .ok .input
    else
      match t.readVerbatim p with
      | .ok bytes => .ok (.file bytes)
      | .error e => .error (.noInput p e)

/-- Values are checked before the number of arguments is. -/
def runArguments (t : FileTree) (given : List (Given (Choice RunOption)))
    (rest : List String) : Except UsageFault ((Option Int × Option Int) × Source) := do
  let size ← sizes given
  let lines ← source t rest.head?
  if 1 < rest.length then .error (.extra (rest.drop 1)) else return (size, lines)

/-- What is left to do once the arguments are read. -/
inductive Task where
  | finished (t : Transcript)
  | lines (settings : Settings) (source : Source)
  deriving DecidableEq, Repr

def Task.transcript (time : String) (input : List UInt8) : Task → Transcript
  | .finished t => t
  | .lines s source => runLines s time (Line.ofBytes (source.bytes input))

/-- Only this subcommand leaves lines to run. -/
def runCommand (t : FileTree) (s : Settings) (arguments : List String) : Task :=
  let place : Place := some .run
  match readOptions runOptions true arguments with
  | .error f => .finished (misused place (.option f))
  | .ok (given, rest) =>
    match firstInfo? given with
    | some info => .finished (shown (infoText place info))
    | none =>
      match runArguments t given rest with
      | .error f => .finished (misused place f)
      | .ok (size, source) =>
        match s.resized size.1 size.2 with
        | .error r => .finished (.crashed (.settings (.rejected r)))
        | .ok s => .lines s source

/-- Shows how a line is read; a line that is no command ends the program with a failure. -/
def readLine (s : Settings) (line : String) : Transcript :=
  match Command.ofLine line with
  | .error e => .crashed (.line (.numeral e))
  | .ok reading =>
    let o := reading.outcome
    match o.render ⟨s.json, s.verbose⟩ with
    | .error e => .crashed (.record e)
    | .ok text => if o.ok then ⟨[.line .out text], .exit 0⟩ else ⟨[.line .err text], .exit 1⟩

def parseCommand (s : Settings) (arguments : List String) : Transcript :=
  let place : Place := some .parse
  match readOptions parseOptions true arguments with
  | .error f => misused place (.option f)
  | .ok (given, rest) =>
    match firstInfo? given with
    | some info => shown (infoText place info)
    | none =>
      match rest with
      | [] => misused place .missingLine
      | [line] => readLine s line
      | _ :: more => misused place (.extra more)

/-- A name that is no subcommand is tried as an option once more. -/
def noCommand (name : String) (rest : List String) : Transcript :=
  match readOptions globalOptions false rest with
  | .error f => misused none (.option f)
  | .ok (given, _) =>
    match firstInfo? given with
    | some info => shown (infoText none info)
    | none =>
      misused none (.noCommand name (Similarity.closest name (Subcommand.all.map Subcommand.name)))

def settings (i : Invocation) (g : Globals) : Except Settings.Fault Settings :=
  Settings.load i.limits i.files i.environment g.config none g.flags

/-- Settings are loaded once the subcommand is known, and before its arguments are read. -/
def dispatch (i : Invocation) (g : Globals) : List String → Task
  | [] =>
    match settings i g with
    | .error f => .finished (unsettled f)
    | .ok _ => .finished (shown (help none))
  | name :: arguments =>
    match Subcommand.ofName? name with
    | none => .finished (noCommand name (name :: arguments))
    | some c =>
      match settings i g with
      | .error f => .finished (unsettled f)
      | .ok s =>
        match c with
        | .run => runCommand i.files s arguments
        | .parse => .finished (parseCommand s arguments)

def task (i : Invocation) : Task :=
  match readOptions globalOptions false i.arguments with
  | .error f => .finished (misused none (.option f))
  | .ok (given, rest) =>
    match firstInfo? given with
    | some info => .finished (shown (infoText none info))
    | none => dispatch i (.ofGiven given) rest

def program (i : Invocation) (input : List UInt8) : Transcript := (task i).transcript i.time input

end GridRobot.Cli
