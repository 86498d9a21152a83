import GridRobot.Proofs.Command.Grammar
import Mathlib.Tactic.Lemma

/-! What the reader makes of the parameters of a placement. -/
namespace GridRobot.Command
open Decimal LetterCase

variable {params a b d : List Char} {x y : Int} {h : Heading}

lemma InThree.unique {a' b' d' : List Char} (three : InThree params a b d)
    (three' : InThree params a' b' d') : a' = a ∧ b' = b ∧ d' = d := by
  have same := (fields_eq_three_iff.mpr three').symm.trans (fields_eq_three_iff.mpr three)
  simpa using same

/-- Neither numerals nor the names of headings have a comma in them. -/
lemma PlaceParameters.inThree (placed : PlaceParameters params x y h) :
    ∃ a b d m n, InThree params a b d ∧ Spells a m ∧ Spells b n ∧ m.value = x ∧ n.value = y ∧
      InRange x ∧ InRange y ∧ SameLetters d h.name.toList := by
  obtain ⟨a, b, d, m, n, rfl, ha, hb, mx, ny, rx, ry, letters⟩ := placed
  have absent : ',' ∉ d := by
    intro hd
    have lowered : Char.toLower ',' ∈ lower d := List.mem_map_of_mem hd
    rw [show lower d = lower h.name.toList from letters] at lowered
    revert lowered
    cases h <;> decide
  refine ⟨a, b, d, m, n, ⟨rfl, ?_, ?_, absent⟩, ha, hb, mx, ny, rx, ry, letters⟩
  · exact ha.not_mem (by decide) (by decide) (by decide)
  · exact hb.not_mem (by decide) (by decide) (by decide)

/-- Of three fields it is the first two that can be too long. -/
lemma InThree.overlong_iff (three : InThree params a b d) :
    OverlongParameters params ↔
      (∃ e, coordinate a = .error e) ∨ ∃ e, coordinate b = .error e := by
  rw [coordinate_eq_error_iff, coordinate_eq_error_iff]
  constructor
  · intro h
    obtain ⟨a', b', d', n, three', spelled, long⟩ := h
    obtain ⟨rfl, rfl, rfl⟩ := three.unique three'
    rcases spelled with first | second
    · exact .inl ⟨n, first, long⟩
    · exact .inr ⟨n, second, long⟩
  · intro h
    rcases h with ⟨n, first, long⟩ | ⟨n, second, long⟩
    · exact ⟨a, b, d, n, three, .inl first, long⟩
    · exact ⟨a, b, d, n, three, .inr second, long⟩

/-- Where nothing is too long, a placement is three fields that are read one by one. -/
lemma InThree.place_iff (three : InThree params a b d) (short : ¬ OverlongParameters params) :
    PlaceParameters params x y h ↔
      coordinate a = .ok (some x) ∧ coordinate b = .ok (some y) ∧ headingOf? d = some h := by
  rw [coordinate_eq_some_iff, coordinate_eq_some_iff, headingOf?_eq_some_iff]
  constructor
  · intro placed
    obtain ⟨a', b', d', m, n, three', ha, hb, mx, ny, rx, ry, letters⟩ := placed.inThree
    obtain ⟨rfl, rfl, rfl⟩ := three.unique three'
    refine ⟨⟨m, ha, fun long => short ?_, mx, rx⟩, ⟨n, hb, fun long => short ?_, ny, ry⟩, letters⟩
    · exact ⟨_, _, _, m, three, .inl ha, long⟩
    · exact ⟨_, _, _, n, three, .inr hb, long⟩
  · intro given
    obtain ⟨⟨m, ha, -, mx, rx⟩, ⟨n, hb, -, ny, ry⟩, letters⟩ := given
    exact ⟨a, b, d, m, n, three.1, ha, hb, mx, ny, rx, ry, letters⟩

lemma ofPlaceParameters_of_three (three : InThree params a b d) :
    ofPlaceParameters params = (do
      let x ← coordinate a
      let y ← coordinate b
      match x, y, headingOf? d with
      | some x, some y, some h => return .ok (.place ⟨x, y⟩ h)
      | _, _, _ => return .error (.badPlace (String.ofList params))) := by
  have parts := fields_eq_three_iff.mpr three
  unfold ofPlaceParameters
  split
  · rename_i same
    cases parts.symm.trans same
    rfl
  · rename_i other
    exact absurd parts (other a b d)

lemma ofPlaceParameters_of_not_three (none : ∀ a b d, ¬ InThree params a b d) :
    ofPlaceParameters params = .ok (.error (.badPlace (String.ofList params))) := by
  unfold ofPlaceParameters
  split
  · rename_i a b d three
    exact absurd (fields_eq_three_iff.mp three) (none a b d)
  · rfl

lemma ofPlaceParameters_of_overlong (long : OverlongParameters params) :
    ∃ e, ofPlaceParameters params = .error e := by
  have ⟨a, b, d, _, three, _⟩ := long
  rw [ofPlaceParameters_of_three three]
  cases first : coordinate a with
  | error e => exact ⟨e, rfl⟩
  | ok u =>
    rcases three.overlong_iff.mp long with ⟨e, he⟩ | ⟨e, he⟩
    · rw [first] at he
      cases he
    · rw [he]
      exact ⟨e, rfl⟩

lemma ofPlaceParameters_of_place (short : ¬ OverlongParameters params)
    (placed : PlaceParameters params x y h) :
    ofPlaceParameters params = .ok (.ok (.place ⟨x, y⟩ h)) := by
  obtain ⟨a, b, d, _, _, three, _⟩ := placed.inThree
  obtain ⟨first, second, third⟩ := (three.place_iff short).mp placed
  rw [ofPlaceParameters_of_three three, first, second, third]
  rfl

/-- Everything else is an error about the whole of the parameters. -/
lemma ofPlaceParameters_of_no_place (short : ¬ OverlongParameters params)
    (unplaced : ∀ x y h, ¬ PlaceParameters params x y h) :
    ofPlaceParameters params = .ok (.error (.badPlace (String.ofList params))) := by
  by_cases split : ∃ a b d, InThree params a b d
  · obtain ⟨a, b, d, three⟩ := split
    rw [ofPlaceParameters_of_three three]
    have := mt three.overlong_iff.mpr short
    cases first : coordinate a with
    | error e => exact absurd (.inl ⟨e, first⟩) this
    | ok u =>
      cases second : coordinate b with
      | error e => exact absurd (.inr ⟨e, second⟩) this
      | ok v =>
        simp only [bind, Except.bind]
        split
        · rename_i x y h third
          exact absurd ((three.place_iff short).mpr ⟨first, second, third⟩) (unplaced x y h)
        · rfl
  · exact ofPlaceParameters_of_not_three fun a b d three => split ⟨a, b, d, three⟩

/-- What parameters are read as: nothing, a placement, or an error. -/
lemma ofPlaceParameters_cases (params : List Char) :
    (OverlongParameters params ∧ ∃ e, ofPlaceParameters params = .error e) ∨
    (¬ OverlongParameters params ∧ ∃ x y h, PlaceParameters params x y h ∧
      ofPlaceParameters params = .ok (.ok (.place ⟨x, y⟩ h))) ∨
    (¬ OverlongParameters params ∧
      ofPlaceParameters params = .ok (.error (.badPlace (String.ofList params)))) := by
  by_cases short : OverlongParameters params
  · exact .inl ⟨short, ofPlaceParameters_of_overlong short⟩
  · by_cases placed : ∃ x y h, PlaceParameters params x y h
    · obtain ⟨x, y, h, placed⟩ := placed
      exact .inr (.inl ⟨short, x, y, h, placed, ofPlaceParameters_of_place short placed⟩)
    · have unplaced : ∀ x y h, ¬ PlaceParameters params x y h := fun x y h p => placed ⟨x, y, h, p⟩
      exact .inr (.inr ⟨short, ofPlaceParameters_of_no_place short unplaced⟩)

lemma ofPlaceParameters_eq_error_iff :
    (∃ e, ofPlaceParameters params = .error e) ↔ OverlongParameters params := by
  constructor
  · intro given
    obtain ⟨e, he⟩ := given
    rcases ofPlaceParameters_cases params with ⟨long, -⟩ | ⟨-, x, y, h, -, read⟩ | ⟨-, read⟩
    · exact long
    · rw [read] at he
      cases he
    · rw [read] at he
      cases he
  · exact ofPlaceParameters_of_overlong

/-- Parameters are read as a command exactly if they are those of a placement. -/
lemma ofPlaceParameters_eq_ok_iff {k : Command} :
    ofPlaceParameters params = .ok (.ok k) ↔ ¬ OverlongParameters params ∧
      ∃ x y h, PlaceParameters params x y h ∧ k = .place ⟨x, y⟩ h := by
  constructor
  · intro he
    rcases ofPlaceParameters_cases params with
      ⟨-, e, read⟩ | ⟨short, x, y, h, placed, read⟩ | ⟨-, read⟩
    · rw [read] at he
      cases he
    · rw [read] at he
      cases he
      exact ⟨short, x, y, h, placed, rfl⟩
    · rw [read] at he
      cases he
  · intro given
    obtain ⟨short, x, y, h, placed, rfl⟩ := given
    exact ofPlaceParameters_of_place short placed

/-- What is wrong with parameters is said of the whole of them. -/
lemma badPlace_of_ofPlaceParameters {e : LineError}
    (read : ofPlaceParameters params = .ok (.error e)) : e = .badPlace (String.ofList params) := by
  rcases ofPlaceParameters_cases params with
    ⟨-, e', fault⟩ | ⟨-, x, y, h, -, command⟩ | ⟨-, failed⟩
  · cases fault.symm.trans read
  · cases command.symm.trans read
  · cases failed.symm.trans read
    rfl

end GridRobot.Command
