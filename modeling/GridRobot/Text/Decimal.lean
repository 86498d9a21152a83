/-! Decimal numerals: writing integers, and reading signed digit strings with a bound on length. -/
namespace GridRobot
namespace Decimal

def ofNat (n : Nat) : List Char := Nat.toDigits 10 n

def ofInt : Int → List Char
  | .ofNat n => ofNat n
  | .negSucc n => '-' :: ofNat (n + 1)

/-- The value of a digit string; leading zeros do not matter. -/
def natValue (digits : List Char) : Nat := Nat.ofDigitChars 10 digits 0

@[simp] theorem natValue_ofNat (n : Nat) : natValue (ofNat n) = n :=
  Nat.ofDigitChars_ten_toDigits

/-- Longest digit string that is converted to a number, or from one. -/
def digitLimit : Nat := 4300

/-- Whether a minus sign counts as a digit where digits are counted. -/
inductive Counting where
  | withoutSign
  | withSign
  deriving DecidableEq, Repr

/-- An optional sign and a run of ASCII digits. -/
structure Numeral where
  negative : Bool
  digits : List Char
  deriving DecidableEq, Repr

namespace Numeral

def unsigned? (negative : Bool) (digits : List Char) : Option Numeral :=
  if digits ≠ [] ∧ digits.all Char.isDigit then some ⟨negative, digits⟩ else none

/-- The whole text must be a sign, if any, and at least one digit. -/
def ofChars? : List Char → Option Numeral
  | '-' :: r => unsigned? true r
  | '+' :: r => unsigned? false r
  | cs => unsigned? false cs

def value (n : Numeral) : Int :=
  if n.negative then - (natValue n.digits : Int) else natValue n.digits

def tooLong (n : Numeral) : Bool := digitLimit < n.digits.length

def size (k : Counting) (n : Numeral) : Nat :=
  match k with
  | .withoutSign => n.digits.length
  | .withSign => n.digits.length + n.negative.toNat

/-- Some readers of data count the sign, too. -/
def exceeds (k : Counting) (n : Numeral) : Bool := digitLimit < n.size k

end Numeral
end Decimal

/-- A numeral with more digits than are ever converted; reading stops without an answer. -/
structure OverlongNumeral where
  digits : Nat
  deriving DecidableEq, Repr

def OverlongNumeral.message (e : OverlongNumeral) : String :=
  "Exceeds the limit (" ++ String.ofList (Decimal.ofNat Decimal.digitLimit) ++
  " digits) for integer string conversion: value has " ++ String.ofList (Decimal.ofNat e.digits) ++
  " digits; use sys.set_int_max_str_digits() to increase the limit"

/-- The value of a numeral unless it is too long. -/
def Decimal.Numeral.convert (n : Decimal.Numeral) : Except OverlongNumeral Int :=
  if n.tooLong then .error ⟨n.digits.length⟩ else .ok n.value

/-- An integer with more digits than are ever written. -/
structure OverlongInteger where
  value : Int
  deriving DecidableEq, Repr

def OverlongInteger.message (_ : OverlongInteger) : String :=
  "Exceeds the limit (" ++ String.ofList (Decimal.ofNat Decimal.digitLimit) ++
  " digits) for integer string conversion; use sys.set_int_max_str_digits() to increase the limit"

/-- The numeral of an integer unless it is too long. -/
def Decimal.write (i : Int) : Except OverlongInteger (List Char) :=
  if Decimal.digitLimit < (Decimal.ofNat i.natAbs).length then .error ⟨i⟩
  else .ok (Decimal.ofInt i)

end GridRobot
