/-! Hexadecimal digits. -/
namespace GridRobot.Hexadecimal

/-- At least so many digits, with zeros in front. -/
def padded (width n : Nat) : List Char :=
  let ds := Nat.toDigits 16 n
  List.replicate (width - ds.length) '0' ++ ds

def value? (c : Char) : Option Nat :=
  let n := c.toNat
  if c.isDigit then some (n - 0x30)
  else if 'a' ≤ c ∧ c ≤ 'f' then some (n - 0x61 + 10)
  else if 'A' ≤ c ∧ c ≤ 'F' then some (n - 0x41 + 10)
  else none

def isDigit (c : Char) : Bool := (value? c).isSome

/-- Characters that are no digits count as zeros. -/
def natValue (cs : List Char) : Nat := cs.foldl (fun acc c => acc * 16 + (value? c).getD 0) 0

end GridRobot.Hexadecimal
