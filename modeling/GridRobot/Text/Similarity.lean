/-! How alike two texts are by the runs that they share, and the names that are like a given one. -/
namespace GridRobot.Similarity

/-- A run of characters, by where it starts in each of two texts. -/
structure Run where
  left : Nat
  right : Nat
  length : Nat

def commonFront : List Char → List Char → Nat
  | a :: as, b :: bs => if a = b then commonFront as bs + 1 else 0
  | _, _ => 0

/-- The runs from one place of the first text, whose rest is given, and every place of the other. -/
def runsFrom (left : Nat) (as : List Char) : Nat → List Char → List Run
  | _, [] => []
  | right, b :: bs =>
    ⟨left, right, commonFront as (b :: bs)⟩ :: runsFrom left as (right + 1) bs

def runs : Nat → List Char → List Char → List Run
  | _, [], _ => []
  | left, a :: as, bs => runsFrom left (a :: as) 0 bs ++ runs (left + 1) as bs

/-- The first of the longest runs. -/
def longestRun (as bs : List Char) : Run :=
  (runs 0 as bs).foldl (fun best r => if best.length < r.length then r else best) ⟨0, 0, 0⟩

/-- How many characters match: the longest run, and what matches on either side of it. -/
def matched (as bs : List Char) : Nat :=
  match longestRun as bs with
  | ⟨i, j, n⟩ =>
    if _h : 0 < n ∧ i < as.length then
      n + matched (as.take i) (bs.take j) + matched (as.drop (i + n)) (bs.drop (j + n))
    else 0
termination_by as.length
decreasing_by all_goals (simp only [List.length_take, List.length_drop]; omega)

/-- A name, with the characters that match a given text and those that both have together. -/
structure Candidate where
  name : String
  matched : Nat
  total : Nat

namespace Candidate

def ofName (text name : String) : Candidate :=
  ⟨name, Similarity.matched name.toList text.toList, name.length + text.length⟩

/-- At least three characters in five match. -/
def isClose (c : Candidate) : Bool := 3 * c.total ≤ 2 * c.matched * 5

/-- The larger share comes first, and of equal shares the later name. -/
def before (a b : Candidate) : Bool :=
  let left := a.matched * b.total
  let right := b.matched * a.total
  right < left || (left == right && decide (b.name ≤ a.name))

end Candidate

/-- How many names are brought to mind at most. -/
def most : Nat := 3

/-- The names most like a text, in alphabetical order. -/
def closest (text : String) (names : List String) : List String :=
  let close := ((names.map (Candidate.ofName text)).filter Candidate.isClose).mergeSort
    Candidate.before
  ((close.take most).map Candidate.name).mergeSort fun a b => decide (a ≤ b)

/-- A question that names them, if there are any. -/
def question : List String → String
  | [] => ""
  | [name] => " Did you mean '" ++ name ++ "'?"
  | names =>
    " (Did you mean one of: " ++ ", ".intercalate (names.map fun n => "'" ++ n ++ "'") ++ "?)"

end GridRobot.Similarity
