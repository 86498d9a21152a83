import GridRobot.Config
import GridRobot.Files

/-! Which configuration file is used, and what it says. -/
namespace GridRobot

/-- Variables by name, in order. -/
abbrev Environment := List (String × String)

def Environment.get? (e : Environment) (name : String) : Option String :=
  (e.find? (·.1 == name)).map (·.2)

namespace Config

def fileName : String := "toyrobot.toml"

/-- The variable that names a file to use instead; its letter case matters. -/
def variableName : String := "TOYROBOT_CONFIG"

/-- A directory and the directories above it, the deepest first. -/
def ancestors : List String → List (List String)
  | [] => [[]]
  | n :: ns => (ancestors ns).map (n :: ·) ++ [[]]

/-- The configuration file of a directory. -/
def fileIn (directory : List String) : FilePath := .absolute (directory ++ [fileName])

/-- The file of the deepest directory that has one, among a directory and those above it. -/
def nearest (t : FileTree) (directory : List String) : Except FileError (Option FilePath) :=
  ((ancestors directory).map fileIn).findM? t.hasFile

/-- A path that was asked for is used if it is a file; no other is looked for. -/
def ifFile (t : FileTree) (p : FilePath) : Except FileError (Option FilePath) :=
  (t.hasFile p).map fun found => if found then some p else none

/-- The search upwards from a directory, which is the working directory if none is given. -/
def search (t : FileTree) : Option FilePath → Except FileError (Option FilePath)
  | none => nearest t t.workingDirectory
  | some start =>
    if FileTree.hasNull start.text then .error ⟨start.text, .nullCharacter⟩
    else nearest t (t.resolve start)

/-- The variable decides if it is set to anything; else the search does. -/
def find (t : FileTree) (e : Environment) (start : Option FilePath) :
    Except FileError (Option FilePath) :=
  match e.get? variableName with
  | some s => if s = "" then search t start else ifFile t (.ofText s)
  | none => search t start

/-- A path given on the command line decides before the variable does. -/
def select (t : FileTree) (e : Environment) (explicit : Option String)
    (start : Option FilePath) : Except FileError (Option FilePath) :=
  match explicit with
  | some s => if s = "" then find t e start else ifFile t (.ofText s)
  | none => find t e start

/-- Why a path gives no configuration. -/
inductive LoadFault where
  | noFile (cause : NoFile)
  | unusable (cause : Fault)
  deriving DecidableEq, Repr

/-- Without a path everything is standard. -/
def load (l : Limits) (t : FileTree) : Option FilePath → Except LoadFault Config
  | none => .ok standard
  | some p =>
    match t.read p with
    | .error e => .error (.noFile e)
    | .ok bytes => (ofBytes l bytes).mapError .unusable

end Config
end GridRobot
