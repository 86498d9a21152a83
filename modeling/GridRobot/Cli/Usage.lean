import GridRobot.Cli.Option
import GridRobot.Files

/-! The commands of the program, their options, and the texts that explain them. -/
namespace GridRobot.Cli

inductive Subcommand where
  | run
  | parse
  deriving DecidableEq, Repr

def Subcommand.name : Subcommand → String
  | run => "run"
  | parse => "parse"

def Subcommand.all : List Subcommand := [run, parse]

def Subcommand.ofName? (s : String) : Option Subcommand := all.find? (·.name == s)

/-- Texts that are shown instead of doing anything. -/
inductive Info where
  | version
  | help
  | examples
  deriving DecidableEq, Repr

/-- An option that asks for a text, or one with a meaning of its own. -/
inductive Choice (κ : Type) where
  | info (i : Info)
  | own (key : κ)
  deriving DecidableEq, Repr

inductive GlobalOption where
  | json
  | verbose
  | logJson
  | config
  deriving DecidableEq, Repr

inductive RunOption where
  | width
  | height
  deriving DecidableEq, Repr

inductive ParseOption where
  deriving DecidableEq, Repr

def RunOption.name : RunOption → String
  | width => "--width"
  | height => "--height"

def globalOptions : List (OptionSpec (Choice GlobalOption)) := [
  ⟨["--version"], .info .version, false⟩,
  ⟨["--json"], .own .json, false⟩,
  ⟨["-v", "--verbose"], .own .verbose, false⟩,
  ⟨["--log-json"], .own .logJson, false⟩,
  ⟨["-c", "--config"], .own .config, true⟩,
  ⟨["--examples"], .info .examples, false⟩,
  ⟨["--help"], .info .help, false⟩]

def runOptions : List (OptionSpec (Choice RunOption)) := [
  ⟨[RunOption.width.name], .own .width, true⟩,
  ⟨[RunOption.height.name], .own .height, true⟩,
  ⟨["--examples"], .info .examples, false⟩,
  ⟨["--help"], .info .help, false⟩]

def parseOptions : List (OptionSpec (Choice ParseOption)) := [
  ⟨["--examples"], .info .examples, false⟩,
  ⟨["--help"], .info .help, false⟩]

/-- The first text that is asked for. -/
def firstInfo? {κ : Type} (given : List (Given (Choice κ))) : Option Info :=
  given.findSome? fun g =>
    match g.key with
    | .info i => some i
    | .own _ => none

def programName : String := "toyrobot"

def version : String := "0.1.0"

/-- Where on the command line something stands: before a subcommand, or after one. -/
abbrev Place := Option Subcommand

def Place.path : Place → String
  | none => programName
  | some c => programName ++ " " ++ c.name

def Place.pattern : Place → String
  | none => "[OPTIONS] [COMMAND] [ARGS]..."
  | some .run => "[OPTIONS] [INPUT]"
  | some .parse => "[OPTIONS] LINE"

def lines (ls : List String) : String := String.join (ls.map (· ++ "\n"))

def usageLine (p : Place) : String := "Usage: " ++ p.path ++ " " ++ p.pattern

def runSummary : String := "Read commands one per line until end of input (default: stdin)."

def parseSummary : String := "Show how LINE is understood, or why it is rejected."

def help (p : Place) : String :=
  lines <| [usageLine p, ""] ++
    match p with
    | none => [
      "  toyrobot: drive a robot around a square grid.",
      "",
      "Options:",
      "  --version          Show the version and exit.",
      "  --json             Structured JSON output.",
      "  -v, --verbose      Detailed output with debug info.",
      "  --log-json         Structured JSON log output to stderr.",
      "  -c, --config TEXT  Override config file path.",
      "  --examples         Show usage examples.",
      "  --help             Show this message and exit.",
      "",
      "Commands:",
      "  parse  " ++ parseSummary,
      "  run    " ++ runSummary]
    | some .run => [
      "  " ++ runSummary,
      "",
      "Options:",
      "  --width INTEGER RANGE   Board width override.  [x>=1]",
      "  --height INTEGER RANGE  Board height override.  [x>=1]",
      "  --examples              Show usage examples.",
      "  --help                  Show this message and exit."]
    | some .parse => [
      "  " ++ parseSummary,
      "",
      "Options:",
      "  --examples  Show usage examples.",
      "  --help      Show this message and exit."]

def examples (p : Place) : String :=
  lines <| ["Examples for '" ++ p.path ++ "':", ""] ++
    match p with
    | none => [
      "  toyrobot run commands.txt",
      "  printf 'PLACE 0,0,NORTH\\nMAP\\n' | toyrobot run",
      "  toyrobot parse \"PLACE 1,2,EAST\"",
      "  toyrobot --json run commands.txt",
      "  toyrobot -c ~/robot.toml run --width 8 commands.txt"]
    | some .run => [
      "  printf 'PLACE 1,1,NORTH\\nMOVE\\nREPORT\\n' | toyrobot run",
      "  toyrobot run commands.txt",
      "  toyrobot run --width 8 --height 8 commands.txt",
      "  toyrobot --json run commands.txt"]
    | some .parse => [
      "  toyrobot parse \"PLACE 1,2,EAST\"",
      "  toyrobot parse report",
      "  toyrobot --json parse place_object"]

def versionText : String := lines [programName ++ ", version " ++ version]

def infoText (p : Place) : Info → String
  | .version => versionText
  | .help => help p
  | .examples => examples p

/-- What is wrong with a command line. -/
inductive UsageFault where
  | option (fault : OptionFault)
  | noCommand (name : String) (similar : List String)
  | notInteger (name value : String)
  | notPositive (name : String) (value : Int)
  | missingLine
  | noInput (path : String) (cause : NoFile)
  | extra (arguments : List String)
  deriving DecidableEq, Repr

namespace UsageFault

def message : UsageFault → String
  | option fault => fault.message
  | noCommand name similar =>
    "No such command " ++ Quoted.quote name ++ "." ++ Similarity.question similar
  | notInteger name value =>
    "Invalid value for '" ++ name ++ "': " ++ Quoted.quote value ++
      " is not a valid integer range."
  | notPositive name value =>
    "Invalid value for '" ++ name ++ "': " ++ String.ofList (Decimal.ofInt value) ++
      " is not in the range x>=1."
  | missingLine => "Missing argument 'LINE'."
  | noInput path cause => "Invalid value for '[INPUT]': '" ++ path ++ "': " ++ cause.reason
  | extra [a] => "Got unexpected extra argument (" ++ a ++ ")"
  | extra as => "Got unexpected extra arguments (" ++ " ".intercalate as ++ ")"

/-- How the command is used is shown unless an option lacks its value or has one too many. -/
def showsUsage : UsageFault → Bool
  | option (.needsValue _) => false
  | option (.takesNoValue _) => false
  | _ => true

def text (f : UsageFault) (p : Place) : String :=
  lines <|
    (if f.showsUsage then [usageLine p, "Try '" ++ p.path ++ " --help' for help.", ""] else []) ++
      ["Error: " ++ f.message]

end UsageFault
end GridRobot.Cli
