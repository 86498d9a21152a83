import GridRobot.Data.Basic
import GridRobot.Text.Hexadecimal

/-! Numbers in TOML: integers to four bases and floats, with underscores between digits. -/
namespace GridRobot.Toml

/-- More digits, each with one underscore before it or none. -/
def moreDigits (isDigit : Char → Bool) : List Char → List Char × List Char
  | '_' :: c :: r =>
    if isDigit c then
      let (ds, q) := moreDigits isDigit r
      (c :: ds, q)
    else ([], '_' :: c :: r)
  | c :: r =>
    if isDigit c then
      let (ds, q) := moreDigits isDigit r
      (c :: ds, q)
    else ([], c :: r)
  | [] => ([], [])

/-- At least one digit. -/
def readDigits (isDigit : Char → Bool) : List Char → Option (List Char × List Char)
  | c :: r =>
    if isDigit c then
      let (ds, q) := moreDigits isDigit r
      some (c :: ds, q)
    else none
  | [] => none

def isOctal (c : Char) : Bool := '0' ≤ c && c ≤ '7'

def isBinary (c : Char) : Bool := c == '0' || c == '1'

/-- An integer to a base other than ten. -/
def readBased : List Char → Option (Nat × List Char)
  | '0' :: 'x' :: r =>
    (readDigits Hexadecimal.isDigit r).map fun p => (Hexadecimal.natValue p.1, p.2)
  | '0' :: 'o' :: r => (readDigits isOctal r).map fun p => (Nat.ofDigitChars 8 p.1 0, p.2)
  | '0' :: 'b' :: r => (readDigits isBinary r).map fun p => (Nat.ofDigitChars 2 p.1 0, p.2)
  | _ => none

/-- A sign, if there is one. -/
def readSign : List Char → Bool × List Char
  | '-' :: r => (true, r)
  | '+' :: r => (false, r)
  | cs => (false, cs)

/-- A zero, or digits of which the first is not zero. -/
def readWhole : List Char → Option (List Char × List Char)
  | '0' :: r => some (['0'], r)
  | cs => readDigits Char.isDigit cs

def readFraction : List Char → List Char × List Char
  | '.' :: r => (readDigits Char.isDigit r).getD ([], '.' :: r)
  | cs => ([], cs)

def readExponent (cs : List Char) : Option Int × List Char :=
  match cs with
  | c :: r =>
    if c = 'e' ∨ c = 'E' then
      let (negative, q) := readSign r
      match readDigits Char.isDigit q with
      | some (ds, s) => (some (Decimal.Numeral.value ⟨negative, ds⟩), s)
      | none => (none, cs)
    else (none, cs)
  | [] => (none, cs)

/-- A number in base ten; a fraction or an exponent makes it a float. -/
def readDecimal? (cs : List Char) : Option (Except OverlongNumeral (Data × List Char)) := do
  let (negative, r) := readSign cs
  let (whole, r) ← readWhole r
  let (fraction, r) := readFraction r
  let (exponent, r) := readExponent r
  match fraction, exponent with
  | [], none => return (Decimal.Numeral.convert ⟨negative, whole⟩).map fun i => (.int i, r)
  | _, _ =>
    return .ok (.float (.ofDecimal negative (whole ++ fraction)
      (exponent.getD 0 - fraction.length)), r)

/-- An infinity or what is not a number. -/
def readSpecial? (cs : List Char) : Option (Data × List Char) :=
  let (negative, r) := readSign cs
  match r with
  | 'i' :: 'n' :: 'f' :: q => some (.float (.infinite negative), q)
  | 'n' :: 'a' :: 'n' :: q => some (.float .nan, q)
  | _ => none

/-- Nothing if no number begins here. -/
def readNumber? (cs : List Char) : Option (Except OverlongNumeral (Data × List Char)) :=
  match readBased cs with
  | some (n, r) => some (.ok (.int n, r))
  | none =>
    match readDecimal? cs with
    | some x => some x
    | none => (readSpecial? cs).map .ok

end GridRobot.Toml
