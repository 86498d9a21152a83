import GridRobot.Data.Basic
import GridRobot.Number.Shortest
import GridRobot.Text.Quoted

/-! Values as they are shown inside plain text. -/
namespace GridRobot.Data

/-- Exponents have a sign and two digits, and the special numbers are in small letters. -/
def literalNumbers : Binary64.Layout where
  positionalFrom := -4
  positionalTo := 15
  exponentWidth := 2
  notANumber := "nan".toList
  infinity := "inf".toList

mutual

/-- Texts stand between quotes, and containers list their parts. -/
def literal : Data → List Char
  | .null => "None".toList
  | .bool true => "True".toList
  | .bool false => "False".toList
  | .int i => Decimal.ofInt i
  | .float x => x.text literalNumbers
  | .text s => Quoted.write s.toList
  | .unpaired codes => Quoted.writeCodes codes
  | .moment m => m.text
  | .list [] => ['[', ']']
  | .list (x :: xs) => '[' :: literal x ++ literalItems xs ++ [']']
  | .object [] => ['\x7b', '\x7d']
  | .object ((k, x) :: ms) =>
    '\x7b' :: Quoted.write k.toList ++ ':' :: ' ' :: literal x ++ literalMembers ms ++ ['\x7d']

def literalItems : List Data → List Char
  | [] => []
  | x :: xs => ',' :: ' ' :: literal x ++ literalItems xs

def literalMembers : List (String × Data) → List Char
  | [] => []
  | (k, x) :: ms =>
    ',' :: ' ' :: Quoted.write k.toList ++ ':' :: ' ' :: literal x ++ literalMembers ms

end

/-- A text on its own is shown as it is. -/
def display : Data → List Char
  | .text s => s.toList
  | d => literal d

end GridRobot.Data
