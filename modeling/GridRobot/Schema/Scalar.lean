import GridRobot.Schema.Checked
import GridRobot.Text.Integer
import GridRobot.Text.LetterCase

/-! Checks of single values; numbers and truth values are also accepted in other guises. -/
namespace GridRobot.Schema

/-- Two to the power of 63, which a floating-point number that counts as an integer stays below. -/
def wordBound : Int := 0x8000000000000000

/-- Whole numbers of any kind and texts that hold one. -/
def integer (k : Decimal.Counting) : Data → Checked Int
  | .int i => .ok i
  | .bool b => .ok (if b then 1 else 0)
  | .float x =>
    if x.isFinite then
      match x.toInt? with
      | some i => if -wordBound < i ∧ i < wordBound then .ok i else .fail .hugeInteger
      | none => .fail .fractional
    else .fail .notFinite
  | .text s =>
    match LenientInteger.ofChars k s.toList with
    | .ok i => .ok i
    | .error .huge => .fail .hugeInteger
    | .error .unreadable => .fail .unreadableInteger
  | .unpaired _ => .fail .notUnicode
  | _ => .fail .notInteger

def falseWords : List String := ["0", "off", "f", "false", "n", "no"]

def trueWords : List String := ["1", "on", "t", "true", "y", "yes"]

/-- Words for truth values are read in any letter case, but not trimmed. -/
def boolWord? (s : String) : Option Bool :=
  let w := String.ofList (LetterCase.lower s.toList)
  if falseWords.contains w then some false
  else if trueWords.contains w then some true
  else none

/-- An integer that fills more than a machine word is not even taken for a number of this kind. -/
def boolOfInt (i : Int) : Checked Bool :=
  if i = 0 then .ok false
  else if i = 1 then .ok true
  else if -wordBound ≤ i ∧ i < wordBound then .fail .unreadableBool
  else .fail .notBool

/-- Truth values, the numbers zero and one, and words for them. -/
def bool : Data → Checked Bool
  | .bool b => .ok b
  | .int i => boolOfInt i
  | .float x =>
    match x.toInt? with
    | some i => if i = -wordBound then .fail .notBool else boolOfInt i
    | none => .fail .notBool
  | .text s =>
    match boolWord? s with
    | some b => .ok b
    | none => .fail .unreadableBool
  | .unpaired _ => .fail .notUnicode
  | _ => .fail .notBool

def text : Data → Checked String
  | .text s => .ok s
  | .unpaired _ => .fail .notUnicode
  | _ => .fail .notText

/-- A text of exactly one character. -/
def character : Data → Checked Char
  | .text s =>
    match s.toList with
    | [] => .fail .tooShort
    | [c] => .ok c
    | _ => .fail .tooLong
  | .unpaired _ => .fail .notUnicode
  | _ => .fail .notText

/-- A text that is one of the names of a table. -/
def choice {α : Type} (table : List (String × α)) : Data → Checked α
  | .text s =>
    match table.find? (·.1 == s) with
    | some e => .ok e.2
    | none => .fail (.notOneOf (table.map (·.1)))
  | _ => .fail (.notOneOf (table.map (·.1)))

def mapping : Data → Checked Members
  | .object ms => .ok ms
  | _ => .fail .notMapping

def list {α : Type} (check : Data → Checked α) : Data → Checked (List α)
  | .list ds => Checked.items check 0 ds
  | _ => .fail .notList

end GridRobot.Schema
