/-! Code points: all of them are characters but the surrogates, which stand for one in pairs. -/
namespace GridRobot.CodePoint

def isHigh (k : Nat) : Bool := 0xd800 ≤ k && k < 0xdc00

def isLow (k : Nat) : Bool := 0xdc00 ≤ k && k < 0xe000

/-- What a high and a low surrogate stand for. -/
def joined (high low : Nat) : Nat := 0x10000 + (high - 0xd800) * 0x400 + (low - 0xdc00)

def char? (k : Nat) : Option Char :=
  if k.isValidChar then some (Char.ofNat k) else none

@[simp] theorem char?_toNat (c : Char) : char? c.toNat = some c := by
  have valid : c.toNat.isValidChar := c.valid
  rw [char?, if_pos valid, Char.ofNat_toNat]

/-- The characters of code points with no surrogate among them. -/
def chars? (codes : List Nat) : Option (List Char) := codes.mapM char?

@[simp] theorem chars?_map_toNat (cs : List Char) : chars? (cs.map Char.toNat) = some cs := by
  induction cs with
  | nil => rfl
  | cons c cs ih =>
    rw [chars?, List.map_cons, List.mapM_cons, char?_toNat, ← chars?, ih]
    rfl

end GridRobot.CodePoint
