import GridRobot.Text.DigitValue
import GridRobot.Text.Integer

/-! Integers as they are typed: blanks around, a sign, and digits of any script. -/
namespace GridRobot.TypedInteger

def digit? (c : Char) : Option Char :=
  (DigitValue.ofChar? c).map fun n => Char.ofNat ('0'.toNat + n)

/-- More digits, each with one underscore before it or none. -/
def moreDigits : List Char → Option (List Char)
  | [] => some []
  | '_' :: c :: r => do
    let d ← digit? c
    return d :: (← moreDigits r)
  | c :: r => do
    let d ← digit? c
    return d :: (← moreDigits r)

def digits : List Char → Option (List Char)
  | [] => none
  | c :: r => do
    let d ← digit? c
    return d :: (← moreDigits r)

def numeral? (cs : List Char) : Option Decimal.Numeral :=
  match LenientInteger.trim cs with
  | '-' :: r => (digits r).map fun ds => ⟨true, ds⟩
  | '+' :: r => (digits r).map fun ds => ⟨false, ds⟩
  | r => (digits r).map fun ds => ⟨false, ds⟩

/-- Numerals that are too long count as no integer. -/
def ofText? (s : String) : Option Int := do
  let n ← numeral? s.toList
  if n.tooLong then none else some n.value

end GridRobot.TypedInteger
