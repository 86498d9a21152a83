import GridRobot.Number.Binary64

/-! The fewest decimal digits that read back as the same binary floating-point number. -/
namespace GridRobot.Binary64

/-- Decimal digits and the power of ten of the first one. -/
structure Digits where
  digits : List Char
  exponent : Int
  deriving DecidableEq, Repr

/-- Whether `a / b < c / d`. -/
def ratioLt (a b c d : Nat) : Bool := a * d < c * b

/-- The numbers that round to a mantissa and exponent lie between these, in quarter units. -/
structure Interval where
  low : Nat
  high : Nat
  closed : Bool

/-- Below a power of two the next number is only half as far away. -/
def interval (m : Nat) (e : Int) : Interval where
  low := if m = leastNormal ∧ minExponent < e then 4 * m - 1 else 4 * m - 2
  high := 4 * m + 2
  closed := m % 2 = 0

/-- Whether `k * 10 ^ p` rounds to `m * 2 ^ e`. -/
def readsBack (m : Nat) (e : Int) (k : Nat) (p : Int) : Bool :=
  let i := interval m e
  let (kn, kd) := timesPower 10 k 1 p
  let (un, ud) := timesPower 2 1 4 e
  let low := (i.low * un, ud)
  let high := (i.high * un, ud)
  if i.closed then !ratioLt kn kd low.1 low.2 && !ratioLt high.1 high.2 kn kd
  else ratioLt low.1 low.2 kn kd && ratioLt kn kd high.1 high.2

/-- The power of ten just above a positive ratio. -/
def decimalTop (num den : Nat) : Int :=
  let guess : Int := (((Nat.log2 num : Int) - Nat.log2 den) * 30103).fdiv 100000
  let above (k : Int) : Bool :=
    let (n, d) := timesPower 10 num den (-k)
    n < d
  if above (guess - 1) then guess - 1
  else if above guess then guess
  else if above (guess + 1) then guess + 1
  else if above (guess + 2) then guess + 2
  else guess + 3

/-- The best candidate of so many digits that reads back, nearest to the exact value. -/
def candidate? (m : Nat) (e : Int) (num den : Nat) (top : Int) (count : Nat) : Option (Nat × Int) :=
  let p := top - count
  let (n, d) := timesPower 10 num den (-p)
  let lo := n / d
  let hi := lo + 1
  match readsBack m e lo p, readsBack m e hi p with
  | true, true => some (if roundHalfEven n d = lo then lo else hi, p)
  | true, false => some (lo, p)
  | false, true => some (hi, p)
  | false, false => none

/-- Seventeen digits always suffice. -/
def shortest (m : Nat) (e : Int) : Digits :=
  if m = 0 then ⟨['0'], 0⟩
  else
    let (num, den) := timesPower 2 m 1 e
    let top := decimalTop num den
    match (List.range 17).findSome? fun i => candidate? m e num den top (i + 1) with
    | none => ⟨['0'], 0⟩
    | some (k, p) =>
      let ds := Nat.toDigits 10 k
      let kept := (ds.reverse.dropWhile (· == '0')).reverse
      ⟨kept, p + ds.length - 1⟩

/-- How digits are laid out as text. -/
structure Layout where
  /-- The powers of ten of the first digit that are written without an exponent. -/
  positionalFrom : Int
  positionalTo : Int
  /-- The least number of digits of an exponent. -/
  exponentWidth : Nat
  notANumber : List Char
  infinity : List Char

/-- Exponents are written with a sign, and a whole number written without one keeps a zero. -/
def Layout.write (l : Layout) (d : Digits) : List Char :=
  if l.positionalFrom ≤ d.exponent ∧ d.exponent ≤ l.positionalTo then
    if d.exponent < 0 then
      "0.".toList ++ List.replicate ((-d.exponent).toNat - 1) '0' ++ d.digits
    else
      let whole := d.exponent.toNat + 1
      let padded := d.digits ++ List.replicate (whole - d.digits.length) '0'
      let rest := padded.drop whole
      padded.take whole ++ '.' :: (if rest = [] then ['0'] else rest)
  else
    let power := Nat.toDigits 10 d.exponent.natAbs
    let mantissa :=
      match d.digits with
      | [] => []
      | [c] => [c]
      | c :: r => c :: '.' :: r
    mantissa ++ 'e' :: (if d.exponent < 0 then '-' else '+') ::
      (List.replicate (l.exponentWidth - power.length) '0' ++ power)

def text (l : Layout) : Binary64 → List Char
  | nan => l.notANumber
  | infinite negative => if negative then '-' :: l.infinity else l.infinity
  | finite negative m e =>
    let body := l.write (shortest m e)
    if negative then '-' :: body else body

end GridRobot.Binary64
