import GridRobot.Data.Basic
import GridRobot.Schema.Issue

/-! Checks that go on after a complaint, so that every issue of a value is reported in order. -/
namespace GridRobot

/-- What data was checked to be, or all that is wrong with it. -/
abbrev Checked (α : Type) := Except (List Issue) α

namespace Checked

def fail {α : Type} (f : Fault) : Checked α := .error [⟨[], f⟩]

/-- A complaint about a part is located from the whole. -/
def within {α : Type} (step : PathStep) : Checked α → Checked α
  | .ok a => .ok a
  | .error is => .error (is.map (Issue.within step))

/-- Both parts are checked, and the complaints about the first come first. -/
def both {α β : Type} : Checked α → Checked β → Checked (α × β)
  | .ok a, .ok b => .ok (a, b)
  | .ok _, .error js => .error js
  | .error is, .ok _ => .error is
  | .error is, .error js => .error (is ++ js)

@[simp] theorem both_eq_ok {α β : Type} {x : Checked α} {y : Checked β} {p : α × β} :
    both x y = .ok p ↔ x = .ok p.1 ∧ y = .ok p.2 := by
  cases x <;> cases y <;> simp [both, Prod.ext_iff]

/-- Every item is checked at its position, counted from a first one. -/
def items {α : Type} (check : Data → Checked α) : Nat → List Data → Checked (List α)
  | _, [] => .ok []
  | i, d :: ds =>
    (both (within (.index i) (check d)) (items check (i + 1) ds)).map fun p => p.1 :: p.2

def titled {α : Type} (title : String) : Checked α → Except Rejection α
  | .ok a => .ok a
  | .error is => .error ⟨title, is⟩

end Checked

namespace Schema

/-- The members of what should be a record of a name. -/
def members (name : String) : Data → Checked Members
  | .object ms => .ok ms
  | _ => .fail (.notRecord name)

def required {α : Type} (ms : Members) (key : String) (check : Data → Checked α) : Checked α :=
  Checked.within (.key key) <|
    match ms.get? key with
    | none => .fail .missing
    | some d => check d

def optional {α : Type} (ms : Members) (key : String) (check : Data → Checked α) :
    Checked (Option α) :=
  match ms.get? key with
  | none => .ok none
  | some d => Checked.within (.key key) ((check d).map some)

def withDefault {α : Type} (ms : Members) (key : String) (default : α)
    (check : Data → Checked α) : Checked α :=
  (optional ms key check).map (·.getD default)

/-- Null stands for nothing. -/
def nullable {α : Type} (check : Data → Checked α) : Data → Checked (Option α)
  | .null => .ok none
  | d => (check d).map some

end Schema
end GridRobot
