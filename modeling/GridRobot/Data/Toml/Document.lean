import GridRobot.Data.Toml.Value
import GridRobot.Text.Line

/-! Whole TOML documents: pairs, tables and arrays of tables, none of them given twice. -/
namespace GridRobot.Toml

/-- A document as far as it was read. -/
structure Document where
  members : Members
  /-- The table that pairs go into. -/
  header : Path
  /-- Containers written inline. -/
  frozen : List Path
  /-- Tables that cannot be opened by a header again. -/
  declared : List Path
  /-- Tables opened by dotted keys, which become declared at the next header. -/
  pending : List Path

namespace Document

def empty : Document := ⟨[], [], [], [], []⟩

/-- The tables that a dotted key opens on its way. -/
def opened (header : Path) : Path → List Path
  | [] => []
  | [_] => []
  | k :: ks => (header ++ [k]) :: opened (header ++ [k]) ks

def putPair (d : Document) (key : Path) (value : Data) : Option Document := do
  let tables := opened d.header key
  let parent := d.header ++ key.dropLast
  if tables.any d.declared.contains || isFrozen d.frozen parent then none
  else
    let ms ← changeAt true (putNew (leaf key) value) parent d.members
    return { d with
      members := ms
      frozen := if isContainer value then (d.header ++ key) :: d.frozen else d.frozen
      pending := tables ++ d.pending }

/-- A header ends the table before it. -/
def settle (d : Document) : Document :=
  { d with declared := d.pending ++ d.declared, pending := [] }

def openTable (d : Document) (key : Path) : Option Document := do
  if d.declared.contains key || isFrozen d.frozen key then none
  else
    let ms ← changeAt true some key d.members
    return { d with members := ms, header := key, declared := key :: d.declared }

/-- One more empty table at the end of an array of tables, which may be new. -/
def append (name : String) (ms : Members) : Option Members :=
  match ms.get? name with
  | none => some (ms.set name (.list [.object []]))
  | some (.list xs) => some (ms.set name (.list (xs ++ [.object []])))
  | some _ => none

/-- Inside the new table everything may be declared anew. -/
def openItem (d : Document) (key : Path) : Option Document := do
  if isFrozen d.frozen key then none
  else
    let ms ← changeAt true (append (leaf key)) key.dropLast d.members
    return { d with
      members := ms
      header := key
      frozen := d.frozen.filter fun p => !key.isPrefixOf p
      declared := key :: d.declared.filter fun p => !key.isPrefixOf p }

/-- A header in brackets after its opening bracket. -/
def readHeader (d : Document) : List Char → Except Fault (Document × List Char)
  | '[' :: r => do
    let (key, r) ← readKey (skipSpace r)
    let d ← orMalformed (d.openItem key)
    match r with
    | ']' :: ']' :: q => return (d, q)
    | _ => .error .malformed
  | r => do
    let (key, r) ← readKey (skipSpace r)
    let d ← orMalformed (d.openTable key)
    match r with
    | ']' :: q => return (d, q)
    | _ => .error .malformed

def readPair (room : Room) (d : Document) (cs : List Char) :
    Except Fault (Document × List Char) := do
  let (key, r) ← readKey cs
  match r with
  | '=' :: r => do
    let (x, r) ← readValue room (r.length + 1) 0 (skipSpace r)
    let d ← orMalformed (d.putPair key x)
    return (d, r)
  | _ => .error .malformed

/-- A header, a pair, or nothing before a comment. -/
def readStatement (room : Room) (d : Document) :
    List Char → Except Fault (Document × List Char)
  | '[' :: r => d.settle.readHeader r
  | '#' :: r => .ok (d, '#' :: r)
  | cs => readPair room d cs

def readLines (room : Room) : Nat → Document → List Char → Except Fault Document
  | 0, _, _ => .error .malformed
  | n + 1, d, cs => do
    room.check 0 cs
    match skipSpace cs with
    | [] => .ok d
    | '\n' :: r => readLines room n d r
    | r => do
      let (d, r) ← readStatement room d r
      match ← skipComment (skipSpace r) with
      | [] => return d
      | '\n' :: q => readLines room n d q
      | _ => .error .malformed

end Document

/-- Line ends of every kind are the same. -/
def ofChars (room : Room) (cs : List Char) : Except Fault Members :=
  let cs := Line.unifyEnds cs
  (Document.readLines room (cs.length + 1) .empty cs).map Document.members

end GridRobot.Toml
