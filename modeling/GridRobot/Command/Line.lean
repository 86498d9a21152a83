import GridRobot.Command
import GridRobot.Text.Lowered

/-! Reading one line of input as a command, with no trimming and with letter case ignored. -/
namespace GridRobot

/-- Why a line is no command. -/
inductive LineFault where
  | unparseable
  | unrecognised
  | badPlace
  deriving DecidableEq, Repr

namespace LineFault

/-- The code that stands for a fault unless another one is given. -/
def code? : LineFault → Option String
  | unparseable => none
  | unrecognised => some "UNRECOGNISED_COMMAND"
  | badPlace => some "BAD_PLACE_PARAMETERS"

/-- The text for people; the word in braces stands for what was at fault. -/
def template : LineFault → String
  | unparseable => "Unparseable input: \x7braw\x7d"
  | unrecognised => "Unrecognised command: \x7braw\x7d"
  | badPlace => "Bad PLACE parameters: \x7braw\x7d"

/-- A template with a text put in; braces in that text mean nothing. -/
def fill (raw : List Char) : List Char → List Char
  | '\x7b' :: 'r' :: 'a' :: 'w' :: '\x7d' :: r => raw ++ fill raw r
  | c :: r => c :: fill raw r
  | [] => []

end LineFault

/-- A fault with its code and the text it was found in. -/
structure LineError where
  fault : LineFault
  code : String
  raw : String
  deriving DecidableEq, Repr

namespace LineError

def message (e : LineError) : String :=
  String.ofList (LineFault.fill e.raw.toList e.fault.template.toList)

def unrecognised (raw : String) : LineError := ⟨.unrecognised, "UNRECOGNISED_COMMAND", raw⟩

def badPlace (raw : String) : LineError := ⟨.badPlace, "BAD_PLACE_PARAMETERS", raw⟩

end LineError

/-- A line that was read: a command, or the error that describes it. -/
abbrev LineReading := Except LineError Command

namespace Command

def keywords : List (String × Command) :=
  [("move", .move), ("left", .rotate .left), ("right", .rotate .right), ("report", .report),
    ("place_object", .placeObject), ("map", .map)]

/-- The command of a line that is one keyword and nothing else. -/
def ofKeyword? (line : List Char) : Option Command :=
  (keywords.find? (·.1.toList == Lowered.ofChars line)).map (·.2)

def placeWord : List Char := "place ".toList

/-- Coordinates are signed words of sixteen bits. -/
def InRange (v : Int) : Prop := -32768 ≤ v ∧ v ≤ 32767

instance (v : Int) : Decidable (InRange v) := by unfold InRange; infer_instance

/-- A strict decimal in range; only digit strings that match are measured against the limit. -/
def coordinate (field : List Char) : Except OverlongNumeral (Option Int) :=
  match Decimal.Numeral.ofChars? field with
  | none => .ok none
  | some n => n.convert.map fun v => if InRange v then some v else none

def headingOf? (field : List Char) : Option Heading :=
  Heading.all.find? fun h => Lowered.ofChars h.name.toList == Lowered.ofChars field

/-- What stands between the commas. -/
def fields (cs : List Char) : List (List Char) :=
  match cs with
  | [] => [[]]
  | c :: r =>
    match c == ',', fields r with
    | true, fs => [] :: fs
    | false, [] => [[c]]
    | false, f :: fs => (c :: f) :: fs

/-- Both coordinates are converted, first column then row, before the heading is looked at. -/
def ofPlaceParameters (params : List Char) : Except OverlongNumeral LineReading :=
  match fields params with
  | [a, b, d] => do
    let x ← coordinate a
    let y ← coordinate b
    match x, y, headingOf? d with
    | some x, some y, some h => return .ok (.place ⟨x, y⟩ h)
    | _, _, _ => return .error (.badPlace (String.ofList params))
  | _ => .ok (.error (.badPlace (String.ofList params)))

def ofLineChars (line : List Char) : Except OverlongNumeral LineReading :=
  match ofKeyword? line with
  | some c => .ok (.ok c)
  | none =>
    if Lowered.ofChars (line.take placeWord.length) = placeWord then
      ofPlaceParameters (line.drop placeWord.length)
    else .ok (.error (.unrecognised (String.ofList line)))

def ofLine (line : String) : Except OverlongNumeral LineReading := ofLineChars line.toList

end Command
end GridRobot
