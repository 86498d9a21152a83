import GridRobot.Text.CodePoint
import GridRobot.Text.Hexadecimal
import GridRobot.Text.Printable

/-! Texts between quotes, with every character that is not printable written as an escape. -/
namespace GridRobot.Quoted

/-- The shortest of the three hexadecimal escapes that has room for a code point. -/
def hexEscape (n : Nat) : List Char :=
  if n < 0x100 then '\\' :: 'x' :: Hexadecimal.padded 2 n
  else if n < 0x10000 then '\\' :: 'u' :: Hexadecimal.padded 4 n
  else '\\' :: 'U' :: Hexadecimal.padded 8 n

def escape (quote c : Char) : List Char :=
  if c = quote ∨ c = '\\' then ['\\', c]
  else if c = '\n' then ['\\', 'n']
  else if c = '\r' then ['\\', 'r']
  else if c = '\t' then ['\\', 't']
  else if Printable.isPrintable c then [c]
  else hexEscape c.toNat

/-- Single quotes are used unless only double quotes save an escape. -/
def quoteFor (cs : List Char) : Char :=
  if '\'' ∈ cs ∧ '"' ∉ cs then '"' else '\''

def write (cs : List Char) : List Char :=
  let q := quoteFor cs
  q :: (cs.flatMap (escape q) ++ [q])

/-- A surrogate is not printable. -/
def writeCodes (codes : List Nat) : List Char :=
  let q := quoteFor (codes.filterMap CodePoint.char?)
  q :: (codes.flatMap (fun k => ((CodePoint.char? k).map (escape q)).getD (hexEscape k)) ++ [q])

def quote (s : String) : String := String.ofList (write s.toList)

end GridRobot.Quoted
