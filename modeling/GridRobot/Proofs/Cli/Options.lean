import GridRobot.Cli.Usage
import Mathlib.Tactic.Lemma

/-! Where one more option can be put among the options of a command line, and what is read then. -/
namespace GridRobot.Cli

section
variable {κ : Type} {specs : List (OptionSpec κ)} {among : Bool} {w : Option (Waiting κ)}
  {a : String} {front rest : List String} {g : Given κ}

/-- Options that all have their values: the argument behind them is an option again, or the first of
the other arguments. A faulty option may stand among them, and then no more arguments are read. -/
inductive Whole (specs : List (OptionSpec κ)) : Option (Waiting κ) → List String → Prop
  | done : Whole specs none []
  | value {w : Waiting κ} {a : String} {front : List String} (later : Whole specs none front) :
      Whole specs (some w) (a :: front)
  | option {a : String} {front : List String} {given : List (Given κ)} {w : Option (Waiting κ)}
      (other : a ≠ "--") (dashed : isOption a = true)
      (read : readOption specs a.toList = .ok (given, w)) (later : Whole specs w front) :
      Whole specs none (a :: front)
  | faulty {a : String} {front : List String} {f : OptionFault} (other : a ≠ "--")
      (dashed : isOption a = true) (read : readOption specs a.toList = .error f) :
      Whole specs none (a :: front)

/-- What is read with one more option: the same fault, or that option as well. -/
inductive Adds (g : Given κ) : Except OptionFault (List (Given κ) × List String) →
    Except OptionFault (List (Given κ) × List String) → Prop
  | fault (f : OptionFault) : Adds g (.error f) (.error f)
  | given (before after : List (Given κ)) (others : List String) :
      Adds g (.ok (before ++ after, others)) (.ok (before ++ g :: after, others))

lemma readFrom_option (other : a ≠ "--") (dashed : isOption a = true) :
    readFrom specs among none (a :: rest) = readOption specs a.toList >>= fun p =>
      (readFrom specs among p.2 rest).map fun q => (p.1 ++ q.1, q.2) := by
  rw [readFrom, if_neg other, if_pos dashed]
  cases readOption specs a.toList with
  | error f => rfl
  | ok p =>
    show (readFrom specs among p.2 rest >>= _) = (readFrom specs among p.2 rest).map _
    cases readFrom specs among p.2 rest <;> rfl

lemma readFrom_value (v : Waiting κ) :
    readFrom specs among (some v) (a :: rest) =
      (readFrom specs among none rest).map fun q => (⟨v.key, a⟩ :: q.1, q.2) := by
  rw [readFrom]
  cases readFrom specs among none rest <;> rfl

lemma Adds.behind {x y : Except OptionFault (List (Given κ) × List String)} (h : Adds g x y)
    (given : List (Given κ)) :
    Adds g (x.map fun q => (given ++ q.1, q.2)) (y.map fun q => (given ++ q.1, q.2)) := by
  cases h with
  | fault f => exact .fault f
  | given before after others =>
    have added := Adds.given (g := g) (given ++ before) after others
    rwa [List.append_assoc, List.append_assoc] at added

/-- An option without a value can be put behind any options that are whole. -/
theorem Whole.adds (whole : Whole specs w front) (other : a ≠ "--") (dashed : isOption a = true)
    (read : readOption specs a.toList = .ok ([g], none)) (rest : List String) :
    Adds g (readFrom specs among w (front ++ rest))
      (readFrom specs among w (front ++ a :: rest)) := by
  induction whole with
  | done =>
    rw [List.nil_append, List.nil_append, readFrom_option other dashed, read]
    show Adds g _ ((readFrom specs among none rest).map _)
    cases readFrom specs among none rest with
    | error f => exact .fault f
    | ok q => exact .given [] q.1 q.2
  | @value v b front later ih =>
    rw [List.cons_append, List.cons_append, readFrom_value, readFrom_value]
    exact ih.behind [⟨v.key, b⟩]
  | @option b front given v other' dashed' read' later ih =>
    rw [List.cons_append, List.cons_append, readFrom_option other' dashed',
      readFrom_option other' dashed', read']
    exact ih.behind given
  | @faulty b front f other' dashed' read' =>
    rw [List.cons_append, List.cons_append, readFrom_option other' dashed',
      readFrom_option other' dashed', read']
    exact .fault f

/-- The last value for an option does not depend on what is given for others. -/
lemma lastValue?_insert [DecidableEq κ] {key : κ} (other : g.key ≠ key)
    (before after : List (Given κ)) :
    lastValue? (before ++ g :: after) key = lastValue? (before ++ after) key := by
  simp [lastValue?, List.find?_append, other]

end
end GridRobot.Cli
