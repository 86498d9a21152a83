import GridRobot.Grid.Box

/-! Complaints about data: what is wrong with a value, and where the value stands. -/
namespace GridRobot

/-- One way in which a value can fail to be what was expected. -/
inductive Fault where
  | missing
  | unexpected
  | notJson
  | notRecord (name : String)
  | notFields
  /-- A value inside a JSON text that should be an object. -/
  | notObject
  /-- A whole JSON text that should be an object. -/
  | notObjectAtAll
  | noTag (key : String)
  | unknownTag (key tag : String) (known : List String)
  | notOneOf (names : List String)
  | notInteger
  | unreadableInteger
  | hugeInteger
  | fractional
  | notFinite
  | below (least : Int)
  | notText
  /-- A text that is no string, with a surrogate in it. -/
  | notUnicode
  | tooShort
  | tooLong
  | notBool
  | unreadableBool
  | notMapping
  | notList
  | notSet
  | invertedBox (corners : Box.Inverted)
  deriving DecidableEq, Repr

namespace Fault

def code : Fault → String
  | missing => "missing"
  | unexpected => "extra_forbidden"
  | notJson => "json_invalid"
  | notRecord _ => "model_type"
  | notFields => "model_attributes_type"
  | notObject => "model_type"
  | notObjectAtAll => "dict_type"
  | noTag _ => "union_tag_not_found"
  | unknownTag .. => "union_tag_invalid"
  | notOneOf _ => "enum"
  | notInteger => "int_type"
  | unreadableInteger => "int_parsing"
  | hugeInteger => "int_parsing_size"
  | fractional => "int_from_float"
  | notFinite => "finite_number"
  | below _ => "greater_than_equal"
  | notText => "string_type"
  | notUnicode => "string_unicode"
  | tooShort => "string_too_short"
  | tooLong => "string_too_long"
  | notBool => "bool_type"
  | unreadableBool => "bool_parsing"
  | notMapping => "dict_type"
  | notList => "list_type"
  | notSet => "frozen_set_type"
  | invertedBox _ => "value_error"

def quoted (names : List String) : List String := names.map fun n => "'" ++ n ++ "'"

/-- Commas between the names, and a word before the last one. -/
def alternatives : List String → String
  | [] => ""
  | [a] => a
  | [a, b] => a ++ " or " ++ b
  | a :: b :: c :: r => a ++ ", " ++ alternatives (b :: c :: r)

/-- What is wrong with a text that is not JSON at all is left to the reader of it. -/
def message? : Fault → Option String
  | missing => some "Field required"
  | unexpected => some "Extra inputs are not permitted"
  | notJson => none
  | notRecord name => some ("Input should be a valid dictionary or instance of " ++ name)
  | notFields => some "Input should be a valid dictionary or object to extract fields from"
  | notObject => some "Input should be an object"
  | notObjectAtAll => some "Input should be an object"
  | noTag key => some ("Unable to extract tag using discriminator '" ++ key ++ "'")
  | unknownTag key tag known =>
    some ("Input tag '" ++ tag ++ "' found using '" ++ key ++
      "' does not match any of the expected tags: " ++ ", ".intercalate (quoted known))
  | notOneOf names => some ("Input should be " ++ alternatives (quoted names))
  | notInteger => some "Input should be a valid integer"
  | unreadableInteger =>
    some "Input should be a valid integer, unable to parse string as an integer"
  | hugeInteger =>
    some "Unable to parse input string as an integer, exceeded maximum size"
  | fractional => some "Input should be a valid integer, got a number with a fractional part"
  | notFinite => some "Input should be a finite number"
  | below least =>
    some ("Input should be greater than or equal to " ++ String.ofList (Decimal.ofInt least))
  | notText => some "Input should be a valid string"
  | notUnicode =>
    some "Input should be a valid string, unable to parse raw data as a unicode string"
  | tooShort => some "String should have at least 1 character"
  | tooLong => some "String should have at most 1 character"
  | notBool => some "Input should be a valid boolean"
  | unreadableBool => some "Input should be a valid boolean, unable to interpret input"
  | notMapping => some "Input should be a valid dictionary"
  | notList => some "Input should be a valid list"
  | notSet => some "Input should be a valid frozenset"
  | invertedBox corners => some ("Value error, " ++ corners.message)

end Fault

/-- One step from a value to a part of it. -/
inductive PathStep where
  | key (name : String)
  | index (position : Nat)
  deriving DecidableEq, Repr

def PathStep.text : PathStep → String
  | key name => name
  | index position => String.ofList (Decimal.ofNat position)

structure Issue where
  path : List PathStep
  fault : Fault
  deriving DecidableEq, Repr

def Issue.within (step : PathStep) (i : Issue) : Issue := { i with path := step :: i.path }

/-- The issues of a whole value, under the name of what it was checked as. -/
structure Rejection where
  title : String
  issues : List Issue
  deriving DecidableEq, Repr

/-- Where something is wrong and what, one issue per line below the title. -/
def Rejection.message (r : Rejection) : String :=
  "\n  ".intercalate (r.title :: r.issues.map fun i =>
    ".".intercalate (i.path.map PathStep.text) ++ ": " ++ i.fault.message?.getD i.fault.code)

end GridRobot
