import GridRobot.Grid.Record
import Mathlib.Algebra.Group.Nat.Defs
import Mathlib.Tactic.Lemma

/-! The box between two cells is the least one that holds both of them, whichever comes first; and two
cells are accepted as corners exactly if they are those of the box between them. -/
namespace GridRobot.Box

/-- The cells stand where the corners of the box between them do. -/
def AreCorners (low high : Cell) : Prop :=
  (between low high).low = low ∧ (between low high).high = high

variable {a b c : Cell} {s : Box}

lemma ext_corners {s t : Box} (low : s.low = t.low) (high : s.high = t.high) : s = t := by
  cases s
  cases t
  simp_all

lemma between_comm (a b : Cell) : between a b = between b a := by
  apply ext_corners
  · ext <;> simp only [between] <;> omega
  · ext <;> simp only [between] <;> omega

lemma contains_between_left (a b : Cell) : (between a b).Contains a := by
  simp only [between, Contains]
  omega

lemma contains_between_right (a b : Cell) : (between a b).Contains b := by
  rw [between_comm]
  exact contains_between_left b a

/-- What lies between two cells of a box is in the box. -/
lemma Contains.between (ha : s.Contains a) (hb : s.Contains b) (hc : (between a b).Contains c) :
    s.Contains c := by
  simp only [Box.between, Contains] at *
  omega

theorem between_subset_iff :
    (∀ c, (between a b).Contains c → s.Contains c) ↔ s.Contains a ∧ s.Contains b := by
  constructor
  · intro subset
    exact ⟨subset a (contains_between_left a b), subset b (contains_between_right a b)⟩
  · intro both c hc
    exact both.1.between both.2 hc

lemma between_corners (s : Box) : between s.low s.high = s := by
  have ordered := s.ordered
  apply ext_corners
  · ext <;> simp only [between] <;> omega
  · ext <;> simp only [between] <;> omega

lemma areCorners_iff : AreCorners a b ↔ a.x ≤ b.x ∧ a.y ≤ b.y := by
  simp only [AreCorners, between, Cell.ext_iff]
  omega

theorem ofCorners_eq_ok_iff : ofCorners a b = .ok s ↔ AreCorners a b ∧ s = between a b := by
  rw [ofCorners]
  constructor
  · intro accepted
    split at accepted
    · cases accepted
      exact ⟨areCorners_iff.mpr ‹_›, (between_corners _).symm⟩
    · cases accepted
  · rintro ⟨corners, rfl⟩
    rw [dif_pos (areCorners_iff.mp corners)]
    exact congrArg Except.ok (ext_corners corners.1.symm corners.2.symm)

theorem ofCorners_eq_error_iff {e : Inverted} :
    ofCorners a b = .error e ↔ ¬ AreCorners a b ∧ e = ⟨a, b⟩ := by
  rw [ofCorners, areCorners_iff]
  split
  · simp_all
  · simp_all [eq_comm]

/-- A record of two corners is checked in the same way, and its only issue is about the record as a
whole. -/
lemma ofData_corners (k : Decimal.Counting) (a b : Cell) :
    ofData k (.object [("bottom_left", a.toData), ("top_right", b.toData)]) =
      (ofCorners a b).mapError fun e => [⟨[], .invertedBox e⟩] := by
  have low : Schema.required [("bottom_left", a.toData), ("top_right", b.toData)] "bottom_left"
      (Cell.ofData k) = .ok a := rfl
  have high : Schema.required [("bottom_left", a.toData), ("top_right", b.toData)] "top_right"
      (Cell.ofData k) = .ok b := rfl
  simp only [ofData, Schema.members, low, high, Checked.both, bind, Except.bind]
  cases ofCorners a b <;> rfl

/-- A box holds what lies between two cells exactly if it holds the two. Two cells are accepted as low
and high corner if the box between them has them there, and else what is wrong is that they have not. -/
theorem between_least_and_corners (a b : Cell) :
    between a b = between b a ∧ (between a b).Contains a ∧ (between a b).Contains b ∧
    (∀ s : Box, (∀ c, (between a b).Contains c → s.Contains c) ↔ s.Contains a ∧ s.Contains b) ∧
    ofCorners (between a b).low (between a b).high = .ok (between a b) ∧
    (∀ s, ofCorners a b = .ok s ↔ AreCorners a b ∧ s = between a b) ∧
    (∀ e, ofCorners a b = .error e ↔ ¬ AreCorners a b ∧ e = ⟨a, b⟩) ∧
    ∀ k, ofData k (.object [("bottom_left", a.toData), ("top_right", b.toData)]) =
      (ofCorners a b).mapError fun e => [⟨[], .invertedBox e⟩] := by
  have own : AreCorners (between a b).low (between a b).high :=
    areCorners_iff.mpr (between a b).ordered
  refine ⟨between_comm a b, contains_between_left a b, contains_between_right a b,
    fun s => between_subset_iff, ?_, fun s => ofCorners_eq_ok_iff, fun e => ofCorners_eq_error_iff,
    fun k => ofData_corners k a b⟩
  exact ofCorners_eq_ok_iff.mpr ⟨own, (between_corners (between a b)).symm⟩

/-- Corners that are in order on one axis only are refused, in whichever order they come. -/
example : ofCorners ⟨0, 5⟩ ⟨3, -2⟩ = .error ⟨⟨0, 5⟩, ⟨3, -2⟩⟩ ∧
    ofCorners ⟨3, -2⟩ ⟨0, 5⟩ = .error ⟨⟨3, -2⟩, ⟨0, 5⟩⟩ ∧
    ofCorners ⟨0, -2⟩ ⟨3, 5⟩ = .ok (between ⟨3, -2⟩ ⟨0, 5⟩) :=
  ⟨rfl, rfl, rfl⟩

end GridRobot.Box
