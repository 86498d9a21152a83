import GridRobot.Text.Lowered.Table
import GridRobot.Text.Printable

/-! Lowering of the letters of every script. -/
namespace GridRobot.Lowered

def Run.has (r : Run) (n : Nat) : Bool :=
  r.first ≤ n && n ≤ r.last && (n - r.first) % r.step == 0

/-- The code point of the small form; what has none stays as it is. -/
def codePoint (n : Nat) : Nat :=
  match runs.find? (·.has n) with
  | some r => r.small + (n - r.first)
  | none => n

/-- A capital I with a dot leaves the dot behind as a mark of its own. -/
def small (c : Char) : List Char :=
  if c.toNat = 0x130 then ['i', Char.ofNat 0x307] else [Char.ofNat (codePoint c.toNat)]

/-- Whether the first character that is not looked past is a letter of either case. -/
def reachesCased (cs : List Char) : Bool :=
  match cs.dropWhile fun c => Printable.inRanges passed c.toNat with
  | [] => false
  | c :: _ => Printable.inRanges cased c.toNat

def sigma : Char := Char.ofNat 0x3a3

/-- The small form of a sigma is another one at the end of a word. -/
def smallSigma (before after : List Char) : Char :=
  if reachesCased before && !reachesCased after then Char.ofNat 0x3c2 else Char.ofNat 0x3c3

/-- What a text becomes behind another one, which is given backwards. -/
def behind (before : List Char) : List Char → List Char
  | [] => []
  | c :: r => (if c = sigma then [smallSigma before r] else small c) ++ behind (c :: before) r

def ofChars (cs : List Char) : List Char := behind [] cs

end GridRobot.Lowered
