import GridRobot.Settings.Environment
import GridRobot.Simulator

/-! Settings from the command line, the environment and a file, merged key by key. -/
namespace GridRobot

structure Settings where
  /-- The file that was used, if there was one. -/
  configPath : Option FilePath
  json : Bool
  verbose : Bool
  logJson : Bool
  size : BoardSize
  glyphs : Glyphs
  deriving DecidableEq, Repr

namespace Settings

def recordName : String := "RobotSettings"

def keys : List String := ["config_path", "json_output", "verbose", "log_json", "board", "map"]

/-- Every key that is not a setting is refused. -/
def noOthers (ms : Members) : Checked Unit :=
  match (ms.filter fun m => !keys.contains m.1).map
      fun m => ({ path := [.key m.1], fault := .unexpected } : Issue) with
  | [] => .ok ()
  | is => .error is

def ofMembers (k : Decimal.Counting) (path : Option FilePath) (ms : Members) : Checked Settings :=
  let flag (key : String) : Checked Bool := Schema.withDefault ms key false Schema.bool
  (Checked.both (flag "json_output")
    (Checked.both (flag "verbose")
      (Checked.both (flag "log_json")
        (Checked.both (Schema.withDefault ms "board" ⟨none, none⟩ (PartialSize.ofData k))
          (Checked.both (Schema.withDefault ms "map" ⟨none, none⟩ PartialGlyphs.ofData)
            (noOthers ms)))))).map
    fun p => ⟨path, p.1, p.2.1, p.2.2.1, p.2.2.2.1.complete, p.2.2.2.2.1.complete⟩

def toData (s : Settings) : Data :=
  .object [
    ("config_path", (s.configPath.map fun p => Data.text p.text).getD .null),
    ("json_output", .bool s.json),
    ("verbose", .bool s.verbose),
    ("log_json", .bool s.logJson),
    ("board", s.size.toData),
    ("map", s.glyphs.toData)]

/-- Why there are no settings. -/
inductive Fault where
  | search (error : FileError)
  | config (path : FilePath) (cause : Config.LoadFault)
  | environment (cause : Environment.Fault)
  | rejected (rejection : Rejection)
  deriving DecidableEq, Repr

/-- Flags name settings in any letter case, and the first flag for a setting counts. -/
def ofFlags (flags : Members) : Members :=
  flags.foldl
    (fun ms m =>
      match keys.find? (· == Environment.lower m.1) with
      | some key => if ms.has key then ms else ms ++ [(key, m.2)]
      | none => ms ++ [m])
    []

/-- Flags go over variables, and both over what the file gives. -/
def merged (file vars flags : Members) : Members :=
  Environment.mergeInto file (Environment.mergeInto vars flags)

/-- The file is read first, then the variables, and the merged values are checked last. -/
def load (l : Limits) (t : FileTree) (e : Environment) (explicit : Option String)
    (start : Option FilePath) (flags : Members) : Except Fault Settings := do
  let path ← (Config.select t e explicit start).mapError .search
  let config ← match path with
    | none => pure Config.standard
    | some p => (Config.load l t (some p)).mapError (.config p)
  let vars ← (e.settings l).mapError .environment
  let members := merged config.overrides vars (ofFlags flags)
  ((ofMembers l.counting path members).titled recordName).mapError .rejected

def extentOr (k : Decimal.Counting) (old : Extent) (key : String) : Option Data → Checked Extent
  | none => .ok old
  | some d => Checked.within (.key key) (Extent.ofData k d)

/-- The same settings but for the numbers of columns and rows that data give. -/
def resizedBy (k : Decimal.Counting) (s : Settings) (width height : Option Data) :
    Except Rejection Settings :=
  Checked.titled PartialSize.recordName <|
    (Checked.both (extentOr k s.size.width "width" width)
      (extentOr k s.size.height "height" height)).map fun p => { s with size := ⟨p.1, p.2⟩ }

/-- No digits are counted where the numbers are integers already. -/
def resized (s : Settings) (width height : Option Int) : Except Rejection Settings :=
  s.resizedBy .withoutSign (width.map .int) (height.map .int)

def simulator (s : Settings) : Simulator := ⟨s.size, s.glyphs⟩

end Settings
end GridRobot
