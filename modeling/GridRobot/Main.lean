import GridRobot.Cli
import Std.Time.Format

/-! The program itself: it gathers what a run can see, and writes what the run answers. -/
namespace GridRobot.Cli

/-- The paths that arguments give: the configuration's, and the one of the file to run. -/
def pathsOf (arguments : List String) : List String :=
  match readOptions globalOptions false arguments with
  | .error _ => []
  | .ok (given, rest) =>
    (lastValue? given (.own .config)).toList ++
      match readOptions runOptions true (rest.drop 1) with
      | .error _ => []
      | .ok (_, operands) => operands.take 1

/-- Where one leads, name by name, from a place on. -/
def placesFrom (place : List String) : List String → List (List String)
  | [] => [place]
  | n :: ns =>
    place :: placesFrom
      (if n = "." then place else if n = ".." then place.dropLast else place ++ [n]) ns

def placesAlong (directory : List String) (p : FilePath) : List (List String) :=
  placesFrom (if p.rootSlashes = 0 then directory else []) p.names

/-- Every place that a run may look at. -/
def placesOf (directory : List String) (e : Environment) (arguments : List String) :
    List (List String) :=
  let named := (pathsOf arguments ++ (e.get? Config.variableName).toList).map FilePath.verbatim
  let searched := (Config.ancestors directory).map Config.fileIn
  ((named ++ searched).flatMap (placesAlong directory)).eraseDups

/-- A place that can be read is a file; one that is there otherwise is a directory. Where permission is
denied neither can be said, and the run ends. -/
def entryAt (place : List String) : IO (Option FileEntry) := do
  let path := (FilePath.absolute place).text
  match ← (IO.FS.readBinFile path).toBaseIO with
  | .ok bytes => return some (.file bytes.toList)
  | .error e@(.permissionDenied ..) => throw e
  | .error _ =>
    if let .ok _ ← (IO.FS.realPath path).toBaseIO then return some .directory
    return none

def treeOf (directory : List String) (places : List (List String)) : IO FileTree := do
  let entries ← places.mapM fun place => return (place, ← entryAt place)
  return ⟨fun place => (entries.find? (·.1 == place)).bind (·.2), directory⟩

/-- What stands before the first equals sign, and what stands after it. -/
def variableOf (s : String) : String × String :=
  (String.ofList (s.toList.takeWhile (· != '=')),
    String.ofList ((s.toList.dropWhile (· != '=')).drop 1))

/-- The variables as the system lists them, in order. -/
def systemVariables : IO Environment := do
  let listing ← try IO.FS.readBinFile "/proc/self/environ" catch _ => pure .empty
  let text := String.ofList (Utf8.decode listing.toList)
  return ((text.splitOn "\x00").filter (· != "")).map variableOf

def clock : IO String := do
  let now := Std.Time.DateTime.ofTimestampWithZone (← Std.Time.Timestamp.now) .UTC
  return now.format "uuuu-MM-dd'T'HH:mm:ss.SSSSSS" ++ "Z"

partial def restOf (s : IO.FS.Stream) (front : ByteArray) : IO ByteArray := do
  let more ← s.read 65536
  if more.isEmpty then return front else restOf s (front ++ more)

/-- The input is read only if its lines are to be run. -/
def inputFor : Task → IO (List UInt8)
  | .lines _ .input => return (← restOf (← IO.getStdin) .empty).toList
  | _ => return []

def emit (e : Emission) : IO Unit := do
  let stream ← match e.stream with
    | .out => IO.getStdout
    | .err => IO.getStderr
  stream.putStr e.text
  stream.flush

def finish : Ending → IO UInt32
  | .exit code => return code.toUInt32
  | .crash c => do
    IO.eprintln c.message
    return 1

def perform (arguments : List String) : IO UInt32 := do
  let directory := (FilePath.ofText (toString (← IO.currentDir))).names
  let environment ← systemVariables
  let files ← treeOf directory (placesOf directory environment arguments)
  let i : Invocation := ⟨arguments, files, environment, ← clock, .usual⟩
  let t := program i (← inputFor (task i))
  t.emissions.forM emit
  finish t.ending

end GridRobot.Cli

def main (arguments : List String) : IO UInt32 := GridRobot.Cli.perform arguments
