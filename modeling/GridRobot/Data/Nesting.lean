import GridRobot.Text.Decimal

/-! What readers of documents put up with: how many digits, and how deeply nested containers. -/
namespace GridRobot

/-- What is not up to a document but to what reads it, and where. -/
structure Limits where
  /-- How the digits of numbers in data are counted. -/
  counting : Decimal.Counting
  /-- How deep JSON may be nested in a variable. -/
  json : Nat
  /-- Whether the stack has room for reading on in a TOML document, on top of so many calls for the
  containers around and with so much of the text left. -/
  toml : Nat → List Char → Bool

/-- About what there is room for with nothing else on the stack. -/
def Limits.usual : Limits := ⟨.withoutSign, 980, fun calls _ => calls ≤ 985⟩

/-- Where the reader gave up: somewhere in a document, or at a container in JSON. -/
inductive TooNested where
  | document
  | jsonArray
  | jsonObject
  deriving DecidableEq, Repr

namespace TooNested

def place : TooNested → String
  | document => ""
  | jsonArray => " while decoding a JSON array from a unicode string"
  | jsonObject => " while decoding a JSON object from a unicode string"

def message (e : TooNested) : String := "maximum recursion depth exceeded" ++ e.place

end TooNested
end GridRobot
