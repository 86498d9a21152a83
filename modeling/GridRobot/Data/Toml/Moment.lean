import GridRobot.Data.Moment

/-! Dates and times in TOML. -/
namespace GridRobot.Toml

/-- So many digits. -/
def readFixed (count : Nat) (cs : List Char) : Option (Nat × List Char) :=
  let ds := cs.take count
  if ds.length = count ∧ ds.all Char.isDigit then some (Decimal.natValue ds, cs.drop count)
  else none

/-- Two digits up to a greatest value. -/
def readPair (least most : Nat) (cs : List Char) : Option (Nat × List Char) :=
  match readFixed 2 cs with
  | some (n, r) => if least ≤ n ∧ n ≤ most then some (n, r) else none
  | none => none

def expect (c : Char) : List Char → Option (List Char)
  | d :: r => if c = d then some r else none
  | [] => none

/-- Millionths from the first six digits of a fraction. -/
def readMicros (cs : List Char) : Nat × List Char :=
  match cs with
  | '.' :: r =>
    match r.takeWhile Char.isDigit with
    | [] => (0, cs)
    | ds =>
      let six := ds.take 6
      (Decimal.natValue (six ++ List.replicate (6 - six.length) '0'), r.dropWhile Char.isDigit)
  | _ => (0, cs)

def readTime (cs : List Char) : Option (TimeOfDay × List Char) := do
  let (h, r) ← readPair 0 23 cs
  let r ← expect ':' r
  let (m, r) ← readPair 0 59 r
  let r ← expect ':' r
  let (s, r) ← readPair 0 59 r
  let (micro, r) := readMicros r
  return (⟨h, m, s, micro⟩, r)

/-- Whether the day exists in its month is left open. -/
def readDate (cs : List Char) : Option (Date × List Char) := do
  let (y, r) ← readFixed 4 cs
  let r ← expect '-' r
  let (m, r) ← readPair 1 12 r
  let r ← expect '-' r
  let (d, r) ← readPair 1 31 r
  return (⟨y, m, d⟩, r)

def readOffset (negative : Bool) (cs : List Char) : Option (Int × List Char) := do
  let (h, r) ← readPair 0 23 cs
  let r ← expect ':' r
  let (m, r) ← readPair 0 59 r
  let minutes : Int := h * 60 + m
  return (if negative then -minutes else minutes, r)

/-- The distance from Greenwich after a time, if it is given. -/
def readZone (cs : List Char) : Option Int × List Char :=
  match cs with
  | c :: r =>
    if c = 'Z' ∨ c = 'z' then (some 0, r)
    else if c = '+' ∨ c = '-' then
      match readOffset (c == '-') r with
      | some (z, q) => (some z, q)
      | none => (none, cs)
    else (none, cs)
  | [] => (none, cs)

/-- The time that follows a date after one separator. -/
def readTimePart (cs : List Char) : Option ((TimeOfDay × Option Int) × List Char) :=
  match cs with
  | c :: r =>
    if c = 'T' ∨ c = 't' ∨ c = ' ' then
      (readTime r).map fun p => ((p.1, (readZone p.2).1), (readZone p.2).2)
    else none
  | [] => none

/-- Nothing if no date or time begins here, and no moment if it does but the day does not exist. -/
def readMoment? (cs : List Char) : Option (Option Moment × List Char) :=
  match readDate cs with
  | some (d, r) =>
    let valid (m : Moment) : Option Moment := if d.Valid then some m else none
    match readTimePart r with
    | some ((t, z), q) => some (valid (.both d t z), q)
    | none => some (valid (.date d), r)
  | none => (readTime cs).map fun p => (some (.time p.1), p.2)

end GridRobot.Toml
