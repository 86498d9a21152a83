import GridRobot.Text.Escape
import Mathlib.Tactic.Lemma

/-! A text without an escape character has no control sequence in it, and no line break belongs to
one. -/
namespace GridRobot.Escape

lemma strip_cons {c : Char} (h : c ≠ escape) (r : List Char) : strip (c :: r) = c :: strip r := by
  rw [strip.eq_def]
  simp only [if_neg h]

theorem strip_of_not_mem {cs : List Char} (absent : escape ∉ cs) : strip cs = cs := by
  induction cs with
  | nil => rw [strip]
  | cons c r ih =>
    have first : c ≠ escape := fun same => absent (by simp [same])
    have rest := ih fun later => absent (List.mem_cons_of_mem c later)
    rw [strip_cons first, rest]

lemma dropWhile_concat {α : Type} {p : α → Bool} {a : α} (stops : p a = false) (l : List α) :
    (l ++ [a]).dropWhile p = l.dropWhile p ++ [a] := by
  rw [List.dropWhile_append]
  split
  · rename_i none
    rw [List.isEmpty_iff.mp none]
    simp [stops]
  · rfl

/-- A sequence ends before a line break, or not at all. -/
lemma afterSequence?_concat_newline (cs : List Char) :
    afterSequence? (cs ++ ['\n']) = (afterSequence? cs).map (· ++ ['\n']) := by
  unfold afterSequence?
  rw [dropWhile_concat (by decide), dropWhile_concat (by decide)]
  cases (cs.dropWhile (isBetween '0' '?')).dropWhile (isBetween ' ' '/') with
  | nil => rfl
  | cons c r =>
    simp only [List.cons_append]
    split <;> rfl

lemma strip_of_sequence {q t : List Char} (h : afterSequence? q = some t) :
    strip (escape :: '[' :: q) = strip t := by
  rw [strip.eq_def]
  simp only [if_true]
  split
  · rename_i u found
    rw [Option.some.inj (found.symm.trans h)]
  · rename_i none
    cases none.symm.trans h

lemma strip_of_no_sequence {q : List Char} (h : afterSequence? q = none) :
    strip (escape :: '[' :: q) = escape :: '[' :: strip q := by
  rw [strip.eq_def]
  simp only [if_true]
  split
  · rename_i u found
    cases found.symm.trans h
  · rfl

lemma strip_of_escape {q : List Char} (h : ∀ r, q ≠ '[' :: r) :
    strip (escape :: q) = escape :: strip q := by
  rw [strip]
  · exact if_pos rfl
  · exact h

/-- A line break at the end stays where it is. -/
theorem strip_concat_newline (cs : List Char) : strip (cs ++ ['\n']) = strip cs ++ ['\n'] := by
  have newline : strip ['\n'] = ['\n'] := strip_of_not_mem (by decide)
  induction cs using strip.induct with
  | case1 =>
    rw [List.nil_append, newline, strip]
    rfl
  | case2 q t found ih =>
    have later : afterSequence? (q ++ ['\n']) = some (t ++ ['\n']) := by
      rw [afterSequence?_concat_newline, found]
      rfl
    rw [List.cons_append, List.cons_append, strip_of_sequence later, ih, strip_of_sequence found]
  | case3 q none ih =>
    have later : afterSequence? (q ++ ['\n']) = Option.none := by
      rw [afterSequence?_concat_newline, none]
      rfl
    rw [List.cons_append, List.cons_append, strip_of_no_sequence later, ih,
      strip_of_no_sequence none]
    rfl
  | case4 q other ih =>
    have later : ∀ r, q ++ ['\n'] ≠ '[' :: r := by
      intro r same
      cases q with
      | nil => exact absurd (List.cons.inj same).1 (by decide)
      | cons c q =>
        obtain ⟨rfl, -⟩ := List.cons.inj same
        exact other q rfl
    rw [List.cons_append, strip_of_escape later, ih, strip_of_escape fun r same => other r same]
    rfl
  | case5 c r plain ih =>
    rw [List.cons_append, strip_cons plain, ih, strip_cons plain]
    rfl

end GridRobot.Escape
