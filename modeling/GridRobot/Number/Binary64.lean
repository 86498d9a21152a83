/-! Binary floating-point numbers of 53 bits as exact dyadic values, and rounding to them. -/
namespace GridRobot

/-- A finite number is a signed mantissa times a power of two, so nothing is lost in arithmetic. -/
inductive Binary64 where
  | nan
  | infinite (negative : Bool)
  | finite (negative : Bool) (mantissa : Nat) (exponent : Int)
  deriving DecidableEq, Repr

namespace Binary64

/-- The least exponent of a representable number. -/
def minExponent : Int := -1074

/-- The greatest exponent of a representable number. -/
def maxExponent : Int := 971

/-- A ratio times a power, as numerator and denominator. -/
def timesPower (base num den : Nat) (e : Int) : Nat × Nat :=
  if 0 ≤ e then (num * Nat.pow base e.toNat, den) else (num, den * Nat.pow base (-e).toNat)

/-- The least mantissa of all but the smallest numbers. -/
def leastNormal : Nat := Nat.pow 2 52

/-- Rounding to the nearest natural number; a half goes to the even neighbour. -/
def roundHalfEven (num den : Nat) : Nat :=
  let q := num / den
  let r := num % den
  if 2 * r < den then q
  else if den < 2 * r then q + 1
  else if q % 2 = 0 then q else q + 1

/-- The exponent that gives a positive ratio a mantissa of 53 bits, unless it is too small. -/
def exponentFor (num den : Nat) : Int :=
  let e : Int := (Nat.log2 num : Int) - Nat.log2 den - 53
  let (n, d) := timesPower 2 num den (-e)
  max minExponent (if 2 * leastNormal ≤ n / d then e + 1 else e)

/-- The representable number nearest to a ratio with a positive denominator. -/
def ofRatio (negative : Bool) (num den : Nat) : Binary64 :=
  if num = 0 then .finite negative 0 minExponent
  else
    let e := exponentFor num den
    let (n, d) := timesPower 2 num den (-e)
    let m := roundHalfEven n d
    let (m, e) := if m = 2 * leastNormal then (leastNormal, e + 1) else (m, e)
    if maxExponent < e then .infinite negative else .finite negative m e

/-- Decimal digits times a power of ten; far too large or small powers are not multiplied out. -/
def ofDecimal (negative : Bool) (digits : List Char) (exponent : Int) : Binary64 :=
  let significant := digits.dropWhile (· == '0')
  let n := Nat.ofDigitChars 10 significant 0
  let top : Int := exponent + significant.length
  if n = 0 then .finite negative 0 minExponent
  else if 400 < top then .infinite negative
  else if top < -400 then .finite negative 0 minExponent
  else
    let (num, den) := timesPower 10 n 1 exponent
    ofRatio negative num den

/-- The integer that a number equals, if it equals one. -/
def toInt? : Binary64 → Option Int
  | nan => none
  | infinite _ => none
  | finite negative m e =>
    let (n, d) := timesPower 2 m 1 e
    if n % d = 0 then some (if negative then -(n / d : Nat) else (n / d : Nat)) else none

def isFinite : Binary64 → Bool
  | finite .. => true
  | _ => false

def isZero : Binary64 → Bool
  | finite _ m _ => m == 0
  | _ => false

/-- What is no number is not below anything. -/
def isBelowOne : Binary64 → Bool
  | nan => false
  | infinite negative => negative
  | finite negative m e =>
    let (n, d) := timesPower 2 m 1 e
    negative || n < d

/-- The representable number nearest to one less. -/
def oneLess : Binary64 → Binary64
  | finite negative m e =>
    let (n, d) := timesPower 2 m 1 e
    let i : Int := (if negative then -(n : Int) else n) - d
    ofRatio (i < 0) i.natAbs d
  | x => x

end Binary64
end GridRobot
