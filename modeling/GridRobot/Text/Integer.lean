import GridRobot.Text.Decimal

/-! Integers written leniently: blanks, a sign, separators, leading zeros, zeros after a point. -/
namespace GridRobot.LenientInteger

/-- The blank characters of every script. -/
def isBlank (c : Char) : Bool :=
  let n := c.toNat
  (9 ≤ n && n ≤ 13) || n == 0x20 || n == 0x85 || n == 0xa0 || n == 0x1680 ||
    (0x2000 ≤ n && n ≤ 0x200a) || n == 0x2028 || n == 0x2029 || n == 0x202f || n == 0x205f ||
    n == 0x3000

def trim (cs : List Char) : List Char :=
  ((cs.dropWhile isBlank).reverse.dropWhile isBlank).reverse

/-- A plus sign is dropped unless a minus sign follows. -/
def dropPlus : List Char → List Char
  | '+' :: '-' :: r => '+' :: '-' :: r
  | '+' :: r => r
  | cs => cs

/-- What follows a zero once the zeros and separators after it are dropped; the last is kept. -/
def afterZero (last : Char) : List Char → Option (List Char)
  | [] => some [last]
  | c :: r =>
    if c = '0' ∨ c = '_' then afterZero c r
    else if ('1' ≤ c ∧ c ≤ '9') ∨ c = '-' then some (c :: r)
    else if c = '.' then some (last :: c :: r)
    else none

def dropZeros : List Char → Option (List Char)
  | [] => none
  | c :: r =>
    if c = '0' then afterZero '0' r
    else if ('1' ≤ c ∧ c ≤ '9') ∨ c = '-' then some (c :: r)
    else none

/-- The sign stays in front of what is left once zeros are dropped. -/
def dropSignedZeros : List Char → Option (List Char)
  | '-' :: r => (dropZeros r).map ('-' :: ·)
  | cs => dropZeros cs

/-- A fraction that is nothing but zeros adds nothing. -/
def dropFraction (cs : List Char) : List Char :=
  match cs.dropWhile (· != '.') with
  | _ :: '0' :: zeros =>
    if zeros.all (· == '0') then cs.takeWhile (· != '.') else cs
  | _ => cs

/-- Whether two separators stand side by side. -/
def hasDoubleSeparator : List Char → Bool
  | '_' :: '_' :: _ => true
  | _ :: r => hasDoubleSeparator r
  | [] => false

/-- Separators are dropped where each one has a neighbour on both sides. -/
def dropSeparators (cs : List Char) : List Char :=
  if cs.head? = some '_' ∨ cs.getLast? = some '_' ∨ hasDoubleSeparator cs then cs
  else cs.filter (· != '_')

/-- A numeral with no leading zeros. -/
def plain? (cs : List Char) : Option Decimal.Numeral :=
  match cs with
  | '-' :: r => digits? true r
  | r => digits? false r
where
  digits? (negative : Bool) (ds : List Char) : Option Decimal.Numeral :=
    match ds with
    | '0' :: _ :: _ => none
    | _ => Decimal.Numeral.unsigned? negative ds

def cleaned? (cs : List Char) : Option Decimal.Numeral := do
  let cs ← dropSignedZeros (dropPlus cs)
  plain? (dropSeparators (dropFraction cs))

/-- The minus sign and the digits that a text starts with. -/
def front : List Char → Decimal.Numeral
  | '-' :: r => ⟨true, r.takeWhile Char.isDigit⟩
  | cs => ⟨false, cs.takeWhile Char.isDigit⟩

/-- A numeral that starts with a zero ends there, and is never huge. -/
def isHuge (k : Decimal.Counting) (n : Decimal.Numeral) : Bool :=
  n.exceeds k && n.digits.head? != some '0'

/-- Why a text holds no integer. -/
inductive Fault where
  | unreadable
  | huge
  deriving DecidableEq, Repr

/-- A text that starts with a huge numeral is refused for that, whatever follows; one with a blank
or a zero in front is not. -/
def ofChars (k : Decimal.Counting) (cs : List Char) : Except Fault Int :=
  if isHuge k (front cs) then .error .huge
  else
    match cleaned? (trim cs) with
    | some n => if n.exceeds k then .error .unreadable else .ok n.value
    | none => .error .unreadable

end GridRobot.LenientInteger
