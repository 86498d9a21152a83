import GridRobot.Data.Basic
import GridRobot.Number.Shortest
import GridRobot.Text.CodePoint
import GridRobot.Text.Hexadecimal

/-! Writing data as JSON, on one line or indented. -/
namespace GridRobot.Json

/-- The choices that JSON leaves open. -/
structure Style where
  /-- Spaces for each level of nesting, or none to stay on one line. -/
  indent : Option Nat
  comma : List Char
  colon : List Char
  /-- Only ASCII is written, all else as escapes. -/
  ascii : Bool
  numbers : Binary64.Layout
  /-- Numbers that are not finite become null. -/
  finiteOnly : Bool

namespace Style

/-- Numbers below one have up to four zeros after the point; exponents are not padded. -/
def recordNumbers : Binary64.Layout where
  positionalFrom := -5
  positionalTo := 15
  exponentWidth := 1
  notANumber := "NaN".toList
  infinity := "Infinity".toList

/-- Numbers below one have up to three zeros after the point; exponents have two digits. -/
def inlineNumbers : Binary64.Layout where
  positionalFrom := -4
  positionalTo := 15
  exponentWidth := 2
  notANumber := "NaN".toList
  infinity := "Infinity".toList

/-- One record on one line. -/
def record : Style := ⟨none, [','], [':'], false, recordNumbers, true⟩

/-- A record spread over indented lines. -/
def indented : Style := ⟨some 2, [','], [':', ' '], false, recordNumbers, true⟩

/-- A value inside a line of plain text. -/
def inline : Style := ⟨none, [','], [':'], true, inlineNumbers, false⟩

/-- A line of a log. -/
def log : Style := ⟨none, [',', ' '], [':', ' '], true, inlineNumbers, false⟩

end Style

def unicodeEscape (n : Nat) : List Char := '\\' :: 'u' :: Hexadecimal.padded 4 n

/-- Beyond the first plane an escape is a pair of surrogates. -/
def asciiEscape (n : Nat) : List Char :=
  if n < 0x10000 then unicodeEscape n
  else
    let m := n - 0x10000
    unicodeEscape (0xd800 + m / 0x400) ++ unicodeEscape (0xdc00 + m % 0x400)

def escape (ascii : Bool) (c : Char) : List Char :=
  if c = '"' ∨ c = '\\' then ['\\', c]
  else if c = '\n' then ['\\', 'n']
  else if c = '\r' then ['\\', 'r']
  else if c = '\t' then ['\\', 't']
  else if c.toNat = 8 then ['\\', 'b']
  else if c.toNat = 12 then ['\\', 'f']
  else if c.toNat < 0x20 then unicodeEscape c.toNat
  else if ascii ∧ 0x7f ≤ c.toNat then asciiEscape c.toNat
  else [c]

def writeText (ascii : Bool) (cs : List Char) : List Char :=
  '"' :: (cs.flatMap (escape ascii) ++ ['"'])

/-- A surrogate is always written as an escape. -/
def codeEscape (ascii : Bool) (k : Nat) : List Char :=
  match CodePoint.char? k with
  | some c => escape ascii c
  | none => unicodeEscape k

def writeCodes (ascii : Bool) (codes : List Nat) : List Char :=
  '"' :: (codes.flatMap (codeEscape ascii) ++ ['"'])

def writeFloat (s : Style) (x : Binary64) : List Char :=
  if s.finiteOnly ∧ !x.isFinite then "null".toList else x.text s.numbers

/-- A line break and the indentation of a level, where the style has lines. -/
def lineBreak (s : Style) (level : Nat) : List Char :=
  match s.indent with
  | none => []
  | some k => '\n' :: List.replicate (k * level) ' '

mutual

def write (s : Style) (level : Nat) : Data → List Char
  | .null => "null".toList
  | .bool true => "true".toList
  | .bool false => "false".toList
  | .int i => Decimal.ofInt i
  | .float x => writeFloat s x
  | .text t => writeText s.ascii t.toList
  | .unpaired codes => writeCodes s.ascii codes
  | .moment m => writeText s.ascii m.text
  | .list [] => ['[', ']']
  | .list (x :: xs) =>
    '[' :: lineBreak s (level + 1) ++ write s (level + 1) x ++ writeItems s (level + 1) xs ++
      lineBreak s level ++ [']']
  | .object [] => ['\x7b', '\x7d']
  | .object ((k, x) :: ms) =>
    '\x7b' :: lineBreak s (level + 1) ++ writeText s.ascii k.toList ++ s.colon ++
      write s (level + 1) x ++ writeMembers s (level + 1) ms ++ lineBreak s level ++ ['\x7d']

def writeItems (s : Style) (level : Nat) : List Data → List Char
  | [] => []
  | x :: xs => s.comma ++ lineBreak s level ++ write s level x ++ writeItems s level xs

def writeMembers (s : Style) (level : Nat) : List (String × Data) → List Char
  | [] => []
  | (k, x) :: ms =>
    s.comma ++ lineBreak s level ++ writeText s.ascii k.toList ++ s.colon ++ write s level x ++
      writeMembers s level ms

end

def toText (s : Style) (d : Data) : String := String.ofList (write s 0 d)

end GridRobot.Json
