import GridRobot.Data.Nesting
import GridRobot.Data.Toml.Moment
import GridRobot.Data.Toml.Number
import GridRobot.Data.Toml.Text

/-! Keys and values in TOML, with arrays and tables written inline. -/
namespace GridRobot.Toml

/-- Why a document cannot be read. -/
inductive Fault where
  | malformed
  | overlong (numeral : OverlongNumeral)
  | tooNested
  deriving DecidableEq, Repr

def orMalformed {α : Type} : Option α → Except Fault α
  | some a => .ok a
  | none => .error .malformed

/-- The names on the way to a value. -/
abbrev Path := List String

/-- A comment up to its newline, if there is one. -/
def skipComment : List Char → Except Fault (List Char)
  | '#' :: r =>
    if (r.takeWhile (· != '\n')).any isControl then .error .malformed
    else .ok (r.dropWhile (· != '\n'))
  | cs => .ok cs

/-- Blanks, newlines and comments; inside a comment only a newline ends it. -/
def skipFiller : Bool → List Char → Except Fault (List Char)
  | _, [] => .ok []
  | true, c :: r =>
    if c = '\n' then skipFiller false r
    else if isControl c then .error .malformed
    else skipFiller true r
  | false, c :: r =>
    if c = '#' then skipFiller true r
    else if isSpaceOrNewline c then skipFiller false r
    else .ok (c :: r)

def filler (cs : List Char) : Except Fault (List Char) := skipFiller false cs

def isBare (c : Char) : Bool := c.isAlphanum || c == '-' || c == '_'

def readKeyPart (cs : List Char) : Except Fault (String × List Char) :=
  match cs.takeWhile isBare with
  | [] => (orMalformed (readLineText cs)).map fun p => (String.ofList p.1, p.2)
  | name => .ok (String.ofList name, cs.dropWhile isBare)

/-- Names with dots between them, and the blanks after them. -/
def readKeyParts : Nat → List Char → Except Fault (Path × List Char)
  | 0, _ => .error .malformed
  | n + 1, cs => do
    let (name, r) ← readKeyPart cs
    match skipSpace r with
    | '.' :: q => do
      let (names, s) ← readKeyParts n (skipSpace q)
      return (name :: names, s)
    | q => return ([name], q)

/-- A key stands on one line, whose length bounds its parts. -/
def readKey (cs : List Char) : Except Fault (Path × List Char) :=
  readKeyParts ((cs.takeWhile (· != '\n')).length + 1) cs

/-- The name at the end of a path. -/
def leaf (key : Path) : String := key.getLast?.getD ""

/-- Changes the table at a path, making the tables that are missing on the way. -/
def changeAt (throughLists : Bool) (f : Members → Option Members) :
    Path → Members → Option Members
  | [], ms => f ms
  | k :: ks, ms =>
    match ms.get? k with
    | none => (changeAt throughLists f ks []).map fun inner => ms.set k (.object inner)
    | some (.object inner) =>
      (changeAt throughLists f ks inner).map fun inner => ms.set k (.object inner)
    | some (.list xs) =>
      if throughLists then
        match xs.getLast? with
        | some (.object inner) =>
          (changeAt throughLists f ks inner).map fun inner =>
            ms.set k (.list (xs.dropLast ++ [.object inner]))
        | _ => none
      else none
    | some _ => none

/-- A value is put where there is none yet. -/
def putNew (name : String) (value : Data) (ms : Members) : Option Members :=
  if ms.has name then none else some (ms.set name value)

def isFrozen (frozen : List Path) (key : Path) : Bool := frozen.any (·.isPrefixOf key)

/-- Arrays and tables written inline cannot be extended later. -/
def isContainer : Data → Bool
  | .list _ => true
  | .object _ => true
  | _ => false

/-- A table written inline, as far as it was read. -/
structure Inline where
  members : Members
  frozen : List Path

/-- Fails if the name is taken or lies in a container that is complete. -/
def Inline.put (t : Inline) (key : Path) (value : Data) : Option Inline :=
  if isFrozen t.frozen key then none
  else
    (changeAt false (putNew (leaf key) value) key.dropLast t.members).map fun ms =>
      ⟨ms, if isContainer value then key :: t.frozen else t.frozen⟩

/-- The calls that are open around an item of an array. -/
def arrayCalls : Nat := 2

/-- The calls that are open around a value in a table that is written inline. -/
def tableCalls : Nat := 3

/-- Whether there is room to read on, for so many calls that are open and so much that is left. -/
abbrev Room := Nat → List Char → Bool

def Room.check (room : Room) (calls : Nat) (cs : List Char) : Except Fault Unit :=
  if room calls cs then .ok () else .error .tooNested

mutual

/-- The numbers bound the steps that are left, and count the calls for the containers around. -/
def readValue (room : Room) : Nat → Nat → List Char → Except Fault (Data × List Char)
  | 0, _, _ => .error .malformed
  | n + 1, calls, cs => do
    room.check calls cs
    match cs with
    | '"' :: _ => readQuoted cs
    | '\'' :: _ => readQuoted cs
    | 't' :: 'r' :: 'u' :: 'e' :: r => .ok (.bool true, r)
    | 'f' :: 'a' :: 'l' :: 's' :: 'e' :: r => .ok (.bool false, r)
    | '[' :: r => do
      let r ← filler r
      let (xs, q) ← readItems room n (calls + arrayCalls) r
      return (.list xs, q)
    | '\x7b' :: r =>
      match skipSpace r with
      | '\x7d' :: q => .ok (.object [], q)
      | q => do
        let (t, s) ← readPairs room n (calls + tableCalls) ⟨[], []⟩ q
        return (.object t.members, s)
    | _ =>
      match readMoment? cs with
      | some (some m, r) => .ok (.moment m, r)
      | some (none, _) => .error .malformed
      | none =>
        match readNumber? cs with
        | some (.ok x) => .ok x
        | some (.error e) => .error (.overlong e)
        | none => .error .malformed
where
  readQuoted (cs : List Char) : Except Fault (Data × List Char) :=
    (orMalformed (readText cs)).map fun p => (.text (String.ofList p.1), p.2)

/-- The items of an array up to its closing bracket; a comma may follow the last one. -/
def readItems (room : Room) : Nat → Nat → List Char → Except Fault (List Data × List Char)
  | 0, _, _ => .error .malformed
  | n + 1, calls, cs =>
    match cs with
    | ']' :: r => .ok ([], r)
    | _ => do
      let (x, r) ← readValue room n calls cs
      let r ← filler r
      match r with
      | ']' :: q => return ([x], q)
      | ',' :: q => do
        let q ← filler q
        let (xs, s) ← readItems room n calls q
        return (x :: xs, s)
      | _ => .error .malformed

/-- The pairs of a table written inline, up to its closing brace; none may be missing. -/
def readPairs (room : Room) : Nat → Nat → Inline → List Char → Except Fault (Inline × List Char)
  | 0, _, _, _ => .error .malformed
  | n + 1, calls, t, cs => do
    let (key, r) ← readKey cs
    match r with
    | '=' :: r => do
      let (x, r) ← readValue room n calls (skipSpace r)
      let t ← orMalformed (t.put key x)
      match skipSpace r with
      | '\x7d' :: q => return (t, q)
      | ',' :: q => readPairs room n calls t (skipSpace q)
      | _ => .error .malformed
    | _ => .error .malformed

end

end GridRobot.Toml
