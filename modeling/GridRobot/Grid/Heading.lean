/-! Compass headings, quarter turns, and the table that composes them. -/
namespace GridRobot

inductive Turn where
  | left
  | right
  deriving DecidableEq, Repr

inductive Heading where
  | north
  | south
  | east
  | west
  deriving DecidableEq, Repr

namespace Turn

def name : Turn → String
  | left => "Left"
  | right => "Right"

def ofName? (s : String) : Option Turn :=
  [left, right].find? (·.name == s)

theorem ofName?_name (t : Turn) : ofName? t.name = some t := by cases t <;> decide

def opposite : Turn → Turn
  | left => right
  | right => left

end Turn

namespace Heading

def all : List Heading := [north, south, east, west]

theorem mem_all (h : Heading) : h ∈ all := by cases h <;> decide

def name : Heading → String
  | north => "North"
  | south => "South"
  | east => "East"
  | west => "West"

/-- Names are matched exactly, letter case included. -/
def ofName? (s : String) : Option Heading :=
  all.find? (·.name == s)

theorem ofName?_name (h : Heading) : ofName? h.name = some h := by cases h <;> decide

/-- The heading after a quarter turn. -/
def turned : Heading → Turn → Heading
  | north, .left => west
  | west, .left => south
  | south, .left => east
  | east, .left => north
  | north, .right => east
  | east, .right => south
  | south, .right => west
  | west, .right => north

@[simp] theorem turned_opposite (h : Heading) (t : Turn) :
    (h.turned t).turned t.opposite = h := by cases h <;> cases t <;> rfl

/-- The eastward part of one step. -/
def dx : Heading → Int
  | north => 0
  | south => 0
  | east => 1
  | west => -1

/-- The northward part of one step. -/
def dy : Heading → Int
  | north => 1
  | south => -1
  | east => 0
  | west => 0

/-- The arrow drawn on a map for a robot with this heading. -/
def glyph : Heading → Char
  | north => '^'
  | south => 'v'
  | east => '>'
  | west => '<'

end Heading
end GridRobot
