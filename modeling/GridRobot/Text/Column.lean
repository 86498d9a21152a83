import GridRobot.Text.Column.Width

/-! Columns of a character terminal, and tabs that reach to the next multiple of eight columns. -/
namespace GridRobot.Column

/-- Where a line of text has got to. -/
structure Cursor where
  column : Nat
  /-- The next character shares the columns of the one before. -/
  joined : Bool
  /-- The last character that took columns, as long as it can still become wider. -/
  last : Option Char
  deriving DecidableEq, Repr

namespace Cursor

def ofColumn (column : Nat) : Cursor := ⟨column, false, none⟩

def start : Cursor := ofColumn 0

end Cursor

/-- Between two characters it joins them into one. -/
def joiner : Char := Char.ofNat 0x200d

/-- After a character it asks for the picture, which has two columns. -/
def selector : Char := Char.ofNat 0xfe0f

def Cursor.after (p : Cursor) (c : Char) : Cursor :=
  if p.joined then { p with joined := false }
  else if c = joiner then { p with joined := true }
  else if c = selector then .ofColumn (p.column + if p.last.any isPicture then 1 else 0)
  else if width c = 0 then p
  else ⟨p.column + width c, false, some c⟩

/-- The columns from a position to the next tab stop, or none if it is one. -/
def toTabStop (column : Nat) : Nat := (8 - column % 8) % 8

/-- Each tab becomes a space, and more of them up to the next tab stop of its own line. -/
def expandTabsFrom (p : Cursor) : List Char → List Char
  | [] => []
  | '\t' :: r =>
    let column := (p.after ' ').column
    ' ' :: List.replicate (toTabStop column) ' ' ++
      expandTabsFrom (.ofColumn (column + toTabStop column)) r
  | '\n' :: r => '\n' :: expandTabsFrom .start r
  | c :: r => c :: expandTabsFrom (p.after c) r

def expandTabs (cs : List Char) : List Char := expandTabsFrom .start cs

end GridRobot.Column
