import GridRobot.Data.Json
import GridRobot.Data.Literal
import GridRobot.Outcome
import GridRobot.Text.Column

/-! Outcomes as text, for people or as indented JSON. -/
namespace GridRobot

/-- How outcomes are rendered. -/
structure RenderOptions where
  json : Bool
  verbose : Bool
  deriving DecidableEq, Repr

namespace RenderOptions

def plain : RenderOptions := ⟨false, false⟩

def recordName : String := "OutputSettings"

def ofData (d : Data) : Checked RenderOptions := do
  let ms ← Schema.members recordName d
  (Checked.both (Schema.withDefault ms "json_output" false Schema.bool)
    (Schema.withDefault ms "verbose" false Schema.bool)).map fun p => ⟨p.1, p.2⟩

def toData (o : RenderOptions) : Data :=
  .object [("json_output", .bool o.json), ("verbose", .bool o.verbose)]

end RenderOptions

namespace Outcome

/-- Containers are compact JSON, and all else is shown as it is. -/
def fieldText : Data → List Char
  | .list xs => Json.write .inline 0 (.list xs)
  | .object ms => Json.write .inline 0 (.object ms)
  | d => d.display

def fieldLine (m : String × Data) : List Char :=
  "  ".toList ++ m.1.toList ++ ": ".toList ++ fieldText m.2

/-- A heading and a line for each member, if there are any. -/
def section? (heading : String) (ms : Members) : List (List Char) :=
  if ms.isEmpty then []
  else ("  " ++ heading ++ ":").toList ::
    ms.map fun m => "    ".toList ++ m.1.toList ++ ": ".toList ++ m.2.display

def successLines (o : Outcome) (verbose : Bool) : List (List Char) :=
  ("OK  " ++ o.operation).toList :: o.data.map fieldLine ++
    (if verbose then section? "meta" (o.context.getD []) else [])

def failureLines (o : Outcome) (verbose : Bool) : List (List Char) :=
  ("ERROR  " ++ o.operation ++ " - " ++ o.failureMessage).toList ::
    (if verbose then section? "detail" ((o.failure.map Failure.detail).getD []) else [])

/-- Bells, backspaces, vertical tabs, form feeds and carriage returns are never printed. -/
def isDropped (c : Char) : Bool := [7, 8, 11, 12, 13].contains c.toNat

/-- Every line is ended, tabs are expanded, and line ends at the very end are dropped. -/
def printed (lines : List (List Char)) : List Char :=
  let ended := lines.flatMap fun l => l ++ ['\n']
  let shown := Column.expandTabs (ended.filter fun c => !isDropped c)
  (shown.reverse.dropWhile (· == '\n')).reverse

/-- The text for people. -/
def plainText (o : Outcome) (verbose : Bool) : String :=
  String.ofList (printed (if o.ok then o.successLines verbose else o.failureLines verbose))

/-- Only as JSON can an outcome be too deep. -/
def render (o : Outcome) (options : RenderOptions) : Except TooDeep String :=
  if options.json then o.write.map (Json.toText .indented) else .ok (o.plainText options.verbose)

end Outcome
end GridRobot
