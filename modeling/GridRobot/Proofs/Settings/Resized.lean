import GridRobot.Proofs.Config.Overrides
import GridRobot.Proofs.Settings.Switches
import GridRobot.Proofs.Simulator.Safety

/-! Extents on a command line go over those of the settings, and change nothing else. -/
namespace GridRobot.Settings

open Cli (Globals)

variable {k : Decimal.Counting} {width height width' height' : Option Int} {o : Option Int}
  {s t : Settings}

/-- The size that a board gets in place of the one it has. -/
def sizeOver (size : BoardSize) (width height : Option Int) : Except Rejection BoardSize :=
  Checked.titled PartialSize.recordName <|
    (Checked.both (extentOr .withoutSign size.width "width" (width.map .int))
      (extentOr .withoutSign size.height "height" (height.map .int))).map fun p => ⟨p.1, p.2⟩

theorem resized_eq (s : Settings) (width height : Option Int) :
    s.resized width height = (sizeOver s.size width height).map fun z => { s with size := z } := by
  rw [resized, resizedBy, sizeOver]
  cases Checked.both (extentOr .withoutSign s.size.width "width" (width.map .int))
    (extentOr .withoutSign s.size.height "height" (height.map .int)) <;> rfl

/-- A size does not depend on switches. -/
theorem resized_switched (g : Globals) (s : Settings) (width height : Option Int) :
    (s.switched g).resized width height = (s.resized width height).map (switched g) := by
  rw [resized_eq, resized_eq, switched]
  cases sizeOver s.size width height <;> rfl

lemma extentOr_of_positive (positive : ∀ n ∈ o, 1 ≤ n) (old : Extent) (key : String) :
    ∃ e, extentOr k old key (o.map .int) = .ok e := by
  cases o with
  | none => exact ⟨old, rfl⟩
  | some n =>
    have read := Extent.ofData_toData k ⟨n, positive n rfl⟩
    exact ⟨_, congrArg (Checked.within (.key key)) read⟩

/-- No positive extent is refused. -/
theorem exists_resized (s : Settings) (columns : ∀ n ∈ width, 1 ≤ n) (rows : ∀ n ∈ height, 1 ≤ n) :
    ∃ z, s.resized width height = .ok { s with size := z } := by
  obtain ⟨w, hw⟩ := extentOr_of_positive columns s.size.width "width"
  obtain ⟨h, hh⟩ := extentOr_of_positive rows s.size.height "height"
  refine ⟨⟨w, h⟩, ?_⟩
  rw [resized, resizedBy, hw, hh]
  rfl

/-- An extent that is given is taken as it is, and one that is not given stays the old one. -/
lemma extentOr_eq_ok_iff {old e : Extent} {key : String} :
    extentOr k old key (o.map .int) = .ok e ↔ e.val = o.getD old.val := by
  cases o with
  | none =>
    have kept : extentOr k old key (Option.map .int none) = .ok old := rfl
    rw [kept, Except.ok.injEq, eq_comm, Subtype.ext_iff]
    rfl
  | some n =>
    have read : extentOr k old key (Option.map .int (some n)) =
        Checked.within (.key key) (Extent.ofData k (.int n)) := rfl
    rw [read, Checked.within_eq_ok_iff, Option.getD_some]
    constructor
    · intro given
      by_cases positive : 1 ≤ n
      · have taken : Extent.ofData k (.int n) = .ok ⟨n, positive⟩ :=
          Extent.ofData_toData k ⟨n, positive⟩
        rw [taken] at given
        exact congrArg Subtype.val (Except.ok.inj given).symm
      · have refused : Extent.ofData k (.int n) = .fail (.below Extent.least) := dif_neg positive
        rw [refused] at given
        cases given
    · intro same
      subst same
      exact Extent.ofData_toData k e

/-- Of two extents that are given one after the other, the last one counts. -/
lemma extentOr_extentOr {old e : Extent} {key : String} {o' : Option Int}
    (first : extentOr k old key (o.map .int) = .ok e) :
    extentOr k e key (o'.map .int) = extentOr k old key ((o' <|> o).map .int) := by
  cases o' with
  | none => exact first.symm
  | some n => rfl

lemma resized_eq_ok_iff_extentOr :
    s.resized width height = .ok t ↔
      extentOr .withoutSign s.size.width "width" (width.map .int) = .ok t.size.width ∧
        extentOr .withoutSign s.size.height "height" (height.map .int) = .ok t.size.height ∧
          t = { s with size := t.size } := by
  rw [resized, resizedBy, Checked.titled_eq_ok_iff, map_eq_ok_iff]
  constructor
  · rintro ⟨⟨w, h⟩, both, rfl⟩
    obtain ⟨columns, rows⟩ := Checked.both_eq_ok.mp both
    exact ⟨columns, rows, rfl⟩
  · rintro ⟨columns, rows, rest⟩
    exact ⟨⟨t.size.width, t.size.height⟩, Checked.both_eq_ok.mpr ⟨columns, rows⟩, rest.symm⟩

/-- All of the settings but the size stay as they are, and of the size what is not given. -/
theorem resized_eq_ok_iff :
    s.resized width height = .ok t ↔
      t.size.width.val = width.getD s.size.width.val ∧
        t.size.height.val = height.getD s.size.height.val ∧ t = { s with size := t.size } := by
  rw [resized_eq_ok_iff_extentOr, extentOr_eq_ok_iff, extentOr_eq_ok_iff]

/-- What is given last counts, in all that it is given for, and what is wrong with it is said in the
same way. -/
theorem resized_resized (first : s.resized width height = .ok t) :
    t.resized width' height' = s.resized (width' <|> width) (height' <|> height) := by
  obtain ⟨columns, rows, rest⟩ := resized_eq_ok_iff_extentOr.mp first
  rw [resized, resized, resizedBy, resizedBy, extentOr_extentOr columns, extentOr_extentOr rows,
    rest]

/-- Only extents below one are refused. -/
theorem resized_eq_error_iff :
    (∃ r, s.resized width height = .error r) ↔ (∃ n ∈ width, n < 1) ∨ ∃ n ∈ height, n < 1 := by
  constructor
  · rintro ⟨r, refused⟩
    by_contra none
    simp only [not_or, not_exists, not_and, Int.not_lt] at none
    obtain ⟨z, accepted⟩ := s.exists_resized none.1 none.2
    rw [accepted] at refused
    cases refused
  · intro small
    cases resized : s.resized width height with
    | error r => exact ⟨r, rfl⟩
    | ok t =>
      obtain ⟨columns, rows, -⟩ := resized_eq_ok_iff.mp resized
      have wide := t.size.width.property
      have tall := t.size.height.property
      rcases small with ⟨n, rfl, small⟩ | ⟨n, rfl, small⟩
      · rw [columns, Option.getD_some] at wide
        exact absurd small (Int.not_lt.mpr wide)
      · rw [rows, Option.getD_some] at tall
        exact absurd small (Int.not_lt.mpr tall)

/-- Settings are resized unless an extent is below one. What is given takes the place of what there
was, once or twice, and nothing else changes; the board that comes of it has just the cells of that
size, and is drawn with the same glyphs. -/
theorem resized_last_writer (s : Settings) (width height width' height' : Option Int) :
    ((∃ r, s.resized width height = .error r) ↔ (∃ n ∈ width, n < 1) ∨ ∃ n ∈ height, n < 1) ∧
    ∀ t, s.resized width height = .ok t →
      t = { s with size := t.size } ∧
      t.size.width.val = width.getD s.size.width.val ∧
      t.size.height.val = height.getD s.size.height.val ∧
      t.resized width' height' = s.resized (width' <|> width) (height' <|> height) ∧
      (∀ c, t.simulator.initialBoard.bounds.Contains c ↔
        (0 ≤ c.x ∧ c.x < t.size.width.val) ∧ 0 ≤ c.y ∧ c.y < t.size.height.val) ∧
      t.simulator.glyphs = s.glyphs := by
  refine ⟨resized_eq_error_iff, fun t resized => ?_⟩
  obtain ⟨columns, rows, rest⟩ := resized_eq_ok_iff.mp resized
  have glyphs : t.simulator.glyphs = ({ s with size := t.size } : Settings).simulator.glyphs :=
    congrArg (fun u => u.simulator.glyphs) rest
  exact ⟨rest, columns, rows, resized_resized resized,
    fun c => Simulator.contains_initialBoard_iff, glyphs⟩

/-- Three columns are asked for, and then seven rows and one column less. -/
theorem resized_last_writer_twice :
    let s : Settings := ⟨none, false, true, false, .standard, ⟨'.', '#'⟩⟩
    let t : Settings := { s with size := ⟨⟨3, by decide⟩, ⟨5, by decide⟩⟩ }
    s.resized (some 3) none = .ok t ∧
      t.resized (some 2) (some 7) = s.resized (some 2) (some 7) ∧
      t.simulator.initialBoard.bounds.Contains ⟨2, 4⟩ ∧
      ¬ t.simulator.initialBoard.bounds.Contains ⟨3, 0⟩ ∧ t.simulator.glyphs = ⟨'.', '#'⟩ := by
  intro s t
  have resized : s.resized (some 3) none = .ok t := rfl
  obtain ⟨-, -, -, again, inside, glyphs⟩ :=
    (resized_last_writer s (some 3) none (some 2) (some 7)).2 t resized
  exact ⟨resized, again, (inside _).mpr (by decide), (inside _).not.mpr (by decide), glyphs⟩

end GridRobot.Settings
