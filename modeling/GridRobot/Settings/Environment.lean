import GridRobot.Config.Discovery
import GridRobot.Data.Json.Reader
import GridRobot.Text.LetterCase

/-! Settings taken from environment variables. -/
namespace GridRobot

/-- A variable that should hold JSON for a section but does not. -/
structure UnreadableVariable where
  field : String
  deriving DecidableEq, Repr

def UnreadableVariable.message (e : UnreadableVariable) : String :=
  "error parsing value for field \"" ++ e.field ++ "\" from source \"EnvSettingsSource\""

namespace Environment

/-- Why variables give no settings. -/
inductive Fault where
  | unreadable (v : UnreadableVariable)
  | tooNested (place : TooNested)
  deriving DecidableEq, Repr

def Fault.message : Fault → String
  | unreadable v => v.message
  | tooNested place => place.message

/-- How variables are read as JSON, where texts need not be strings. -/
def dialect (l : Limits) : Json.Dialect := ⟨l.json, true, some .withoutSign, false, true⟩

/-- The beginning of the names of all variables for settings. -/
def namePrefix : String := "toyrobot_"

def lower (s : String) : String := String.ofList (LetterCase.lower s.toList)

/-- The letter case of names is ignored, and a later variable replaces an earlier one. -/
def values (e : Environment) : Members := Members.ofList (e.map fun v => (lower v.1, .text v.2))

/-- What stands between pairs of underscores, paired off from the left. -/
def keys : List Char → List (List Char)
  | [] => [[]]
  | '_' :: '_' :: r => [] :: keys r
  | c :: r =>
    match keys r with
    | [] => [[c]]
    | k :: ks => (c :: k) :: ks

/-- Nothing is put below a plain value. -/
def putNested (value : Data) : List String → Members → Members
  | [], ms => ms
  | [k], ms => ms.set k value
  | k :: ks, ms =>
    match ms.get? k with
    | none => ms.set k (.object (putNested value ks []))
    | some (.object inner) => ms.set k (.object (putNested value ks inner))
    | some _ => ms

/-- The rest of a name after its beginning. -/
def after? (start name : String) : Option (List Char) :=
  if start.toList.isPrefixOf name.toList then some (name.toList.drop start.toList.length) else none

/-- The keys of a section that variables of their own give. -/
def nested (vars : Members) (field : String) : Members :=
  vars.foldl
    (fun ms v =>
      match after? (namePrefix ++ field ++ "__") v.1 with
      | some rest => putNested v.2 ((keys rest).map String.ofList) ms
      | none => ms)
    []

/-- Keys are taken for the known ones whatever their letter case. -/
def renamed (known : List String) (ms : Members) : Members :=
  Members.ofList (ms.map fun m => ((known.find? fun k => k == lower m.1).getD m.1, m.2))

mutual

/-- Objects are merged key by key; any other value replaces what it is put over. -/
def mergedOver (low : Data) : Data → Data
  | .object ms =>
    match low with
    | .object ls => .object (mergeInto ls ms)
    | _ => .object ms
  | d => d

def mergeInto (low : Members) : List (String × Data) → Members
  | [] => low
  | (k, d) :: ms =>
    mergeInto
      (low.set k (match low.get? k with
        | some old => mergedOver old d
        | none => d))
      ms

end

/-- A variable with JSON for the whole section comes first, and variables for keys override it. -/
def section? (l : Limits) (vars : Members) (field : String) (known : List String) :
    Except Fault (Option Data) :=
  let own := nested vars field
  match vars.get? (namePrefix ++ field) with
  | some (.text s) =>
    match Json.ofText (dialect l) s with
    | .error .malformed => .error (.unreadable ⟨field⟩)
    | .error (.tooNested place) => .error (.tooNested place)
    | .ok .null => .ok none
    | .ok (.object ms) => .ok (some (.object (renamed known (mergeInto ms own))))
    | .ok d => .ok (some d)
  | _ => .ok (if own.isEmpty then none else some (.object (renamed known own)))

/-- A setting that is no section is taken as the text it is. -/
def single (vars : Members) (field : String) : Members :=
  ((vars.get? (namePrefix ++ field)).map fun d => (field, d)).toList

def settings (l : Limits) (e : Environment) : Except Fault Members := do
  let vars := e.values
  let board ← section? l vars "board" ["width", "height"]
  let map ← section? l vars "map" ["empty", "obstacle"]
  return single vars "json_output" ++ single vars "verbose" ++ single vars "log_json" ++
    (board.map fun d => ("board", d)).toList ++ (map.map fun d => ("map", d)).toList

end Environment
end GridRobot
