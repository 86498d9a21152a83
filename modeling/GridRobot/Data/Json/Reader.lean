import GridRobot.Data.Basic
import GridRobot.Data.Nesting
import GridRobot.Text.CodePoint
import GridRobot.Text.Decimal
import GridRobot.Text.Hexadecimal

/-! Reading JSON; not-a-number and the infinities are numbers, and later members replace earlier. -/
namespace GridRobot.Json

/-- What is left open when JSON is read: how much a text may hold. -/
structure Dialect where
  /-- How deep containers may be nested. -/
  depth : Nat
  /-- Whether containers with nothing in them count as well. -/
  countsEmpty : Bool
  /-- How the digits of an integer are counted, if there may not be too many. -/
  counting : Option Decimal.Counting
  /-- Whether the bound holds for the digits before a point or an exponent, too. -/
  boundsFloats : Bool
  /-- Whether texts may have surrogates in them that are not in pairs. -/
  takesUnpaired : Bool
  deriving DecidableEq, Repr

/-- Why a text cannot be read. -/
inductive Fault where
  | malformed
  | tooNested (place : TooNested)
  deriving DecidableEq, Repr

def orMalformed {α : Type} : Option α → Except Fault α
  | some a => .ok a
  | none => .error .malformed

def isBlank (c : Char) : Bool := c == ' ' || c == '\t' || c == '\n' || c == '\r'

def skipBlank (cs : List Char) : List Char := cs.dropWhile isBlank

/-- Four hexadecimal digits and what follows them. -/
def readHex4 : List Char → Option (Nat × List Char)
  | a :: b :: c :: d :: r => do
    let a ← Hexadecimal.value? a
    let b ← Hexadecimal.value? b
    let c ← Hexadecimal.value? c
    let d ← Hexadecimal.value? d
    return (((a * 16 + b) * 16 + c) * 16 + d, r)
  | _ => none

/-- The character of a letter after a backslash. -/
def shortEscape? : Char → Option Char
  | '"' => some '"'
  | '\\' => some '\\'
  | '/' => some '/'
  | 'b' => some (Char.ofNat 8)
  | 'f' => some (Char.ofNat 12)
  | 'n' => some '\n'
  | 'r' => some '\r'
  | 't' => some '\t'
  | _ => none

/-- The code point of an escape, and what follows it; a high surrogate is joined with a low one. -/
def readUnicode (cs : List Char) : Option (Nat × List Char) := do
  let (k, r) ← readHex4 cs
  return ((partner? k r).map fun p => (CodePoint.joined k p.1, p.2)).getD (k, r)
where
  partner? (high : Nat) : List Char → Option (Nat × List Char)
    | '\\' :: 'u' :: r =>
      (readHex4 r).filter fun p => CodePoint.isHigh high && CodePoint.isLow p.1
    | _ => none

/-- The code points of the rest of a text after its opening quote. -/
def readText : Nat → List Char → Option (List Nat × List Char)
  | 0, _ => none
  | n + 1, cs =>
    match cs with
    | [] => none
    | '"' :: r => some ([], r)
    | '\\' :: 'u' :: r => do
      let (k, r) ← readUnicode r
      let (t, r) ← readText n r
      return (k :: t, r)
    | '\\' :: c :: r => do
      let e ← shortEscape? c
      let (t, r) ← readText n r
      return (e.toNat :: t, r)
    | c :: r =>
      if c.toNat < 0x20 ∨ c = '\\' then none
      else do
        let (t, r) ← readText n r
        return (c.toNat :: t, r)

/-- A text as a value. -/
def Dialect.text? (d : Dialect) (codes : List Nat) : Option Data :=
  match CodePoint.chars? codes with
  | some cs => some (.text (String.ofList cs))
  | none => if d.takesUnpaired then some (.unpaired codes) else none

/-- A text as a name. Nothing is looked for by a name that is no string, so a member with such a name
is no member. -/
def Dialect.names? (d : Dialect) (codes : List Nat) : Option (List String) :=
  match CodePoint.chars? codes with
  | some cs => some [String.ofList cs]
  | none => if d.takesUnpaired then some [] else none

/-- The digits at the front of a text. -/
def digitSpan (cs : List Char) : List Char × List Char :=
  (cs.takeWhile Char.isDigit, cs.dropWhile Char.isDigit)

/-- A fraction, a point with at least one digit, if there is one. -/
def readFraction : List Char → Option (List Char × List Char)
  | '.' :: r =>
    match digitSpan r with
    | ([], _) => none
    | s => some s
  | r => some ([], r)

/-- An exponent, if there is one. -/
def readExponent : List Char → Option (Option Int × List Char)
  | c :: r =>
    if c = 'e' ∨ c = 'E' then
      let (negative, r) :=
        match r with
        | '-' :: r => (true, r)
        | '+' :: r => (false, r)
        | r => (false, r)
      match digitSpan r with
      | ([], _) => none
      | (ds, r) => some (some (Decimal.Numeral.value ⟨negative, ds⟩), r)
    else some (none, c :: r)
  | [] => some (none, [])

/-- Whether a number starts with more digits than a dialect puts up with. -/
def Dialect.refuses (d : Dialect) (n : Decimal.Numeral) (isFloat : Bool) : Bool :=
  d.counting.any n.exceeds && (d.boundsFloats || !isFloat)

/-- A number after its sign; a numeral with a fraction or an exponent is a float. -/
def readUnsigned (d : Dialect) (negative : Bool) (cs : List Char) : Option (Data × List Char) :=
  match cs with
  | 'I' :: 'n' :: 'f' :: 'i' :: 'n' :: 'i' :: 't' :: 'y' :: r =>
    some (.float (.infinite negative), r)
  | cs => do
    let (whole, r) := digitSpan cs
    let bad := match whole with
      | [] => true
      | '0' :: _ :: _ => true
      | _ => false
    if bad then none
    else
      let (fraction, r) ← readFraction r
      let (exponent, r) ← readExponent r
      let n : Decimal.Numeral := ⟨negative, whole⟩
      match fraction, exponent with
      | [], none => if d.refuses n false then none else some (.int n.value, r)
      | _, _ =>
        if d.refuses n true then none
        else
          some (.float (.ofDecimal negative (whole ++ fraction)
            (exponent.getD 0 - fraction.length)), r)

def readNumber (d : Dialect) : List Char → Option (Data × List Char)
  | 'N' :: 'a' :: 'N' :: r => some (.float .nan, r)
  | '-' :: r => readUnsigned d true r
  | cs => readUnsigned d false cs

mutual

/-- The numbers bound the steps that are left, and how deep containers may go from here. -/
def readValue (d : Dialect) : Nat → Nat → List Char → Except Fault (Data × List Char)
  | 0, _, _ => .error .malformed
  | n + 1, depth, cs =>
    match cs with
    | 'n' :: 'u' :: 'l' :: 'l' :: r => .ok (.null, r)
    | 't' :: 'r' :: 'u' :: 'e' :: r => .ok (.bool true, r)
    | 'f' :: 'a' :: 'l' :: 's' :: 'e' :: r => .ok (.bool false, r)
    | '"' :: r => do
      let (t, r) ← orMalformed (readText n r)
      let x ← orMalformed (d.text? t)
      return (x, r)
    | '[' :: r =>
      match skipBlank r, depth with
      | ']' :: r, depth =>
        if d.countsEmpty && depth == 0 then .error (.tooNested .jsonArray) else .ok (.list [], r)
      | _, 0 => .error (.tooNested .jsonArray)
      | r, depth + 1 => do
        let (x, r) ← readValue d n depth r
        let (xs, r) ← readItems d n depth (skipBlank r)
        return (.list (x :: xs), r)
    | '\x7b' :: r =>
      match skipBlank r, depth with
      | '\x7d' :: r, depth =>
        if d.countsEmpty && depth == 0 then .error (.tooNested .jsonObject) else .ok (.object [], r)
      | _, 0 => .error (.tooNested .jsonObject)
      | r, depth + 1 => do
        let (m, r) ← readMember d n depth r
        let (ms, r) ← readMembers d n depth (skipBlank r)
        return (.object (Members.ofList (m ++ ms)), r)
    | cs => orMalformed (readNumber d cs)

/-- What follows an item of a list, up to the closing bracket. -/
def readItems (d : Dialect) : Nat → Nat → List Char → Except Fault (List Data × List Char)
  | 0, _, _ => .error .malformed
  | n + 1, depth, cs =>
    match cs with
    | ']' :: r => .ok ([], r)
    | ',' :: r => do
      let (x, r) ← readValue d n depth (skipBlank r)
      let (xs, r) ← readItems d n depth (skipBlank r)
      return (x :: xs, r)
    | _ => .error .malformed

/-- A name with its value, unless there is no such name. -/
def readMember (d : Dialect) :
    Nat → Nat → List Char → Except Fault (List (String × Data) × List Char)
  | 0, _, _ => .error .malformed
  | n + 1, depth, cs =>
    match cs with
    | '"' :: r => do
      let (t, r) ← orMalformed (readText n r)
      let names ← orMalformed (d.names? t)
      match skipBlank r with
      | ':' :: r => do
        let (x, r) ← readValue d n depth (skipBlank r)
        return (names.map fun k => (k, x), r)
      | _ => .error .malformed
    | _ => .error .malformed

/-- What follows a member of an object, up to the closing brace. -/
def readMembers (d : Dialect) :
    Nat → Nat → List Char → Except Fault (List (String × Data) × List Char)
  | 0, _, _ => .error .malformed
  | n + 1, depth, cs =>
    match cs with
    | '\x7d' :: r => .ok ([], r)
    | ',' :: r => do
      let (m, r) ← readMember d n depth (skipBlank r)
      let (ms, r) ← readMembers d n depth (skipBlank r)
      return (m ++ ms, r)
    | _ => .error .malformed

end

/-- The whole text must be one value, with blanks around it. -/
def ofChars (d : Dialect) (cs : List Char) : Except Fault Data := do
  let (x, r) ← readValue d (cs.length + 1) d.depth (skipBlank cs)
  if skipBlank r = [] then .ok x else .error .malformed

def ofText (d : Dialect) (s : String) : Except Fault Data := ofChars d s.toList

end GridRobot.Json
