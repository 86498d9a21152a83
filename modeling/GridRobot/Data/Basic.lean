import GridRobot.Data.Moment
import GridRobot.Number.Binary64

/-! Values of documents and messages; the members of an object keep their order. -/
namespace GridRobot

inductive Data where
  | null
  | bool (value : Bool)
  | int (value : Int)
  | float (value : Binary64)
  | text (value : String)
  /-- Code points with a surrogate among them, which are no string. -/
  | unpaired (codes : List Nat)
  | moment (value : Moment)
  | list (items : List Data)
  | object (members : List (String × Data))

/-- Named values in order. -/
abbrev Members := List (String × Data)

namespace Members

def get? (ms : Members) (key : String) : Option Data :=
  (ms.find? (·.1 == key)).map (·.2)

def has (ms : Members) (key : String) : Bool := ms.any (·.1 == key)

/-- A name that is already present keeps its place and takes the new value. -/
def set (ms : Members) (key : String) (value : Data) : Members :=
  if ms.has key then ms.map fun m => if m.1 == key then (key, value) else m
  else ms ++ [(key, value)]

/-- Names once each, every one with the last value given for it. -/
def ofList (ms : List (String × Data)) : Members :=
  ms.foldl (fun acc m => set acc m.1 m.2) []

end Members

namespace Data

def isNull : Data → Bool
  | null => true
  | _ => false

/-- Empty containers and texts, zeros, false and null. -/
def isEmpty : Data → Bool
  | null => true
  | bool b => !b
  | int i => i == 0
  | float x => x.isZero
  | text s => s == ""
  | unpaired codes => codes.isEmpty
  | moment _ => false
  | list xs => xs.isEmpty
  | object ms => ms.isEmpty

mutual

/-- The longest way into a value, itself included. -/
def depth : Data → Nat
  | list xs => depthOfItems xs + 1
  | object ms => depthOfMembers ms + 1
  | _ => 1

def depthOfItems : List Data → Nat
  | [] => 0
  | x :: xs => max x.depth (depthOfItems xs)

def depthOfMembers : List (String × Data) → Nat
  | [] => 0
  | (_, x) :: ms => max x.depth (depthOfMembers ms)

end

mutual

/-- Whether two values are the same in every part. -/
def same : Data → Data → Bool
  | null, null => true
  | bool a, bool b => a == b
  | int a, int b => a == b
  | float a, float b => a == b
  | text a, text b => a == b
  | unpaired a, unpaired b => a == b
  | moment a, moment b => a == b
  | list xs, list ys => sameItems xs ys
  | object ms, object ns => sameMembers ms ns
  | _, _ => false

def sameItems : List Data → List Data → Bool
  | [], [] => true
  | x :: xs, y :: ys => same x y && sameItems xs ys
  | _, _ => false

def sameMembers : List (String × Data) → List (String × Data) → Bool
  | [], [] => true
  | (k, x) :: ms, (l, y) :: ns => k == l && same x y && sameMembers ms ns
  | _, _ => false

end

mutual

theorem same_iff : ∀ x y : Data, same x y = true ↔ x = y
  | null, y | bool _, y | int _, y | float _, y | text _, y | unpaired _, y | moment _, y => by
    cases y <;> simp [same]
  | list xs, y => by cases y <;> simp [same, sameItems_iff xs]
  | object ms, y => by cases y <;> simp [same, sameMembers_iff ms]

theorem sameItems_iff : ∀ xs ys : List Data, sameItems xs ys = true ↔ xs = ys
  | [], ys => by cases ys <;> simp [sameItems]
  | x :: xs, ys => by cases ys <;> simp [sameItems, same_iff x, sameItems_iff xs]

theorem sameMembers_iff : ∀ ms ns : List (String × Data), sameMembers ms ns = true ↔ ms = ns
  | [], ns => by cases ns <;> simp [sameMembers]
  | (k, x) :: ms, ns => by
    cases ns <;> simp [sameMembers, same_iff x, sameMembers_iff ms, Prod.ext_iff]

end

instance : DecidableEq Data := fun x y => decidable_of_iff _ (same_iff x y)

end Data
end GridRobot
