import GridRobot.Command.Line
import GridRobot.Data.Json.Reader
import GridRobot.Data.Literal
import GridRobot.Grid.Record

/-! Commands as records with a tag, and the errors of lines as records. -/
namespace GridRobot

namespace Command

def tagKey : String := "kind"

/-- The tag comes first. -/
def toMembers (c : Command) : Members :=
  (tagKey, .text c.kind) ::
    match c with
    | place location heading =>
      [("location", location.toData), ("facing", heading.toData)]
    | rotate turn => [("direction", turn.toData)]
    | _ => []

def toData (c : Command) : Data := .object c.toMembers

/-- What has to follow each tag. -/
def variants (k : Decimal.Counting) : List (String × (Members → Checked Command)) := [
  ("place", fun ms =>
    (Checked.both (Schema.required ms "location" (Cell.ofData k))
      (Schema.required ms "facing" Heading.ofData)).map fun p => .place p.1 p.2),
  ("move", fun _ => .ok .move),
  ("rotate", fun ms => (Schema.required ms "direction" Turn.ofData).map .rotate),
  ("report", fun _ => .ok .report),
  ("place_object", fun _ => .ok .placeObject),
  ("map", fun _ => .ok .map)]

def unionName : String := "tagged-union[Place,Move,Rotate,Report,PlaceObject,Map]"

/-- The tag selects the variant; other members are ignored. -/
def ofData (k : Decimal.Counting) : Data → Checked Command
  | .object ms =>
    match Members.get? ms tagKey with
    | none => .fail (.noTag tagKey)
    | some tag =>
      match tag with
      | .text s =>
        match (variants k).find? (·.1 == s) with
        | some v => Checked.within (.key v.1) (v.2 ms)
        | none => unknown tag
      | _ => unknown tag
  | _ => .fail .notFields
where
  unknown (tag : Data) : Checked Command :=
    .fail (.unknownTag tagKey (String.ofList tag.display) ((variants k).map (·.1)))

/-- Inside JSON there are objects only, so complaints speak of objects. -/
def inJson (i : Issue) : Issue :=
  match i.fault with
  | .notFields => { i with fault := .notObjectAtAll }
  | .notRecord _ => { i with fault := .notObject }
  | _ => i

/-- How commands are read from JSON, where texts must be strings. -/
def dialect (k : Decimal.Counting) : Json.Dialect := ⟨200, false, some k, true, false⟩

def ofJson (k : Decimal.Counting) (s : String) : Checked Command :=
  match Json.ofText (dialect k) s with
  | .error _ => .fail .notJson
  | .ok d => (ofData k d).mapError (·.map inJson)

end Command

namespace LineFault

def recordName : LineFault → String
  | unparseable => "ParsingError"
  | unrecognised => "UnrecognisedCommand"
  | badPlace => "BadPlaceParameters"

/-- A code has to be given only where the fault has none of its own. -/
def code (f : LineFault) (ms : Members) : Checked String :=
  match f.code? with
  | none => Schema.required ms "code" Schema.text
  | some c => Schema.withDefault ms "code" c Schema.text

end LineFault

def LineError.ofMembers (f : LineFault) (ms : Members) : Checked LineError :=
  (Checked.both (f.code ms) (Schema.required ms "raw" Schema.text)).map fun p => ⟨f, p.1, p.2⟩

end GridRobot
