import GridRobot.Board.Drawing
import GridRobot.Proofs.Command.Placement
import GridRobot.Proofs.Command.Reading
import GridRobot.Proofs.Grid.Cell
import Mathlib.Tactic.Lemma

/-! A report behind the word for a placement is read as the placement of the robot it is about, if
the robot stands where placements reach. -/
namespace GridRobot
open Decimal

lemma Cell.write_of_not_isRemote {c : Cell} (near : ¬ c.IsRemote) :
    c.write = .ok (String.ofList (ofInt c.x ++ ',' :: ofInt c.y)) := by
  obtain ⟨hx, hy⟩ := not_or.mp near
  rw [Cell.write, write_of_lt (Nat.not_le.mp hx), write_of_lt (Nat.not_le.mp hy)]
  rfl

namespace Robot

/-- The three fields of a report. -/
lemma report_of_not_isRemote {r : Robot} (near : ¬ r.location.IsRemote) :
    ∃ t, r.report = .ok t ∧ t.toList = ofInt r.location.x ++ ',' ::
      (ofInt r.location.y ++ ',' :: r.heading.name.toList.map Char.toUpper) := by
  rw [report, Cell.write_of_not_isRemote near]
  refine ⟨_, rfl, ?_⟩
  simp

end Robot

namespace Command

lemma not_isRemote_of_inRange {x y : Int} (hx : InRange x) (hy : InRange y) :
    ¬ Cell.IsRemote ⟨x, y⟩ :=
  not_or.mpr ⟨Nat.not_le.mpr (natAbs_lt_of_inRange hx (by decide)),
    Nat.not_le.mpr (natAbs_lt_of_inRange hy (by decide))⟩

/-- A written integer is read back, unless it is out of range. -/
lemma coordinate_ofInt {i : Int} (h : i.natAbs < 10 ^ digitLimit) :
    coordinate (ofInt i) = .ok (if InRange i then some i else none) := by
  have spelled := spells_ofInt i
  have short : ¬ digitLimit < (ofNat i.natAbs).length :=
    Nat.not_lt.mpr ((length_ofNat_le_iff (by decide)).mpr h)
  rcases coordinate_cases (ofInt i) with ⟨n, hn, long, -⟩ | ⟨n, hn, -, read⟩ | ⟨none, -⟩
  · obtain rfl := hn.unique spelled
    exact absurd long short
  · obtain rfl := hn.unique spelled
    rwa [value_of_spelled] at read
  · exact absurd spelled (none _)

lemma headingOf?_capitals (h : Heading) : headingOf? (h.name.toList.map Char.toUpper) = some h :=
  headingOf?_eq_some_iff.mpr (by cases h <;> decide)

/-- The word for a placement in front of a report makes it the placement that it tells of, and
parameters of no placement if a coordinate is out of range. -/
theorem ofLine_place_report {r : Robot} {t : String} (near : ¬ r.location.IsRemote)
    (reported : r.report = .ok t) :
    ofLine ("PLACE " ++ t) =
      if InRange r.location.x ∧ InRange r.location.y then
        .ok (.ok (.place r.location r.heading))
      else .ok (.error (.badPlace t)) := by
  obtain ⟨u, reported', fields⟩ := Robot.report_of_not_isRemote near
  obtain rfl : t = u := Except.ok.inj (reported.symm.trans reported')
  obtain ⟨hx, hy⟩ := not_or.mp near
  have after : AfterPlace ("PLACE " ++ t).toList t.toList :=
    ⟨"PLACE ".toList, String.toList_append, by decide⟩
  have absent (i : Int) : ',' ∉ ofInt i :=
    (spells_ofInt i).not_mem (by decide) (by decide) (by decide)
  have three : InThree t.toList (ofInt r.location.x) (ofInt r.location.y)
      (r.heading.name.toList.map Char.toUpper) :=
    ⟨fields, absent _, absent _, by cases r.heading <;> decide⟩
  rw [ofLine, ofLineChars_of_afterPlace after, ofPlaceParameters_of_three three,
    coordinate_ofInt (Nat.not_le.mp hx), coordinate_ofInt (Nat.not_le.mp hy),
    headingOf?_capitals, String.ofList_toList]
  by_cases column : InRange r.location.x
  · by_cases row : InRange r.location.y
    · simp only [column, row, if_true, and_self]
      rfl
    · simp only [column, row, if_true, if_false, and_false]
      rfl
  · simp only [column, if_false, false_and]
    rfl

end Command
end GridRobot
