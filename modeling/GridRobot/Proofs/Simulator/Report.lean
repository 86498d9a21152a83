import GridRobot.Proofs.Board.Update
import GridRobot.Proofs.Command.Payload
import GridRobot.Proofs.Command.Report
import GridRobot.Proofs.Simulator.Safety
import Mathlib.Tactic.Lemma

/-! Reporting and placing undo each other: on a board that lines lead to, a report can be given back as
a placement, which changes nothing, and it tells which robot stands there. -/
namespace GridRobot
open Command

namespace Simulator

variable {s s' : Simulator} {b b' : Board} {r r' : Robot}

/-- Lines lead to a board with a robot, on a simulator that is no larger than placements reach. -/
structure Reaches (s : Simulator) (b : Board) (r : Robot) : Prop where
  width : s.size.width.val ≤ 32768
  height : s.size.height.val ≤ 32768
  replayed : ∃ lines, s.replay s.initialBoard lines = .ok b
  present : b.robot = some r

namespace Reaches

lemma keeps (h : s.Reaches b r) : b.Valid ∧ s.initialBoard.Precedes b := by
  obtain ⟨lines, replayed⟩ := h.replayed
  exact replay_keeps s.initialBoard_valid replayed

lemma inRange (h : s.Reaches b r) : InRange r.location.x ∧ InRange r.location.y := by
  obtain ⟨valid, kept⟩ := h.keeps
  have inside := (valid r h.present).1
  have width := h.width
  have height := h.height
  rw [kept.bounds, contains_initialBoard_iff] at inside
  simp only [InRange]
  omega

lemma report (h : s.Reaches b r) : ∃ t, r.report = .ok t ∧
    ofLine ("PLACE " ++ t) = .ok (.ok (.place r.location r.heading)) := by
  obtain ⟨column, row⟩ := h.inRange
  have near : ¬ r.location.IsRemote := not_isRemote_of_inRange column row
  obtain ⟨t, reported, -⟩ := Robot.report_of_not_isRemote near
  refine ⟨t, reported, ?_⟩
  rw [ofLine_place_report near reported, if_pos ⟨column, row⟩]

lemma answer_report (h : s.Reaches b r) (g : Glyphs) :
    b.answer .report g = r.report.map some := by
  simp only [Board.answer, h.present]

/-- The answer to a question does not change the board. -/
lemma step_report (h : s.Reaches b r) {t : String} (reported : r.report = .ok t) :
    s.step b "REPORT" = .ok ⟨b, .ran .report (some t) true, none⟩ := by
  have read : ofLine "REPORT" = .ok (.ok .report) :=
    ofLineChars_of_keyword (ofKeyword?_eq_some_iff.mpr ⟨_, .report, by decide⟩)
  have answered : b.answer .report s.glyphs = .ok (some t) := by
    rw [h.answer_report, reported]
    rfl
  have valid : (b.after .report).Valid := by
    rw [Board.after_report]
    exact h.keeps.1
  have stepped := Stepped.committed read answered valid
  rw [Board.after_report] at stepped
  exact step_eq_ok_iff.mpr stepped

/-- Placing the robot where it stands is carried out, whatever obstacles there are. -/
lemma step_place (h : s.Reaches b r) {line : String}
    (read : ofLine line = .ok (.ok (.place r.location r.heading))) :
    s.step b line = .ok ⟨b, .ran (.place r.location r.heading) none true, none⟩ := by
  have free := (Board.valid_iff_isFree h.present).mp h.keeps.1
  have placed := step_of_free (s := s) read free
  rwa [Board.withRobot_self h.present] at placed

/-- Robots with the same report are read back as the same placement. -/
lemma answer_eq_iff (h : s.Reaches b r) (h' : s'.Reaches b' r') :
    b.answer .report s.glyphs = b'.answer .report s'.glyphs ↔ r = r' := by
  rw [h.answer_report, h'.answer_report]
  constructor
  · intro same
    obtain ⟨t, reported, read⟩ := h.report
    obtain ⟨t', reported', read'⟩ := h'.report
    rw [reported, reported'] at same
    obtain rfl : t = t' := Option.some.inj (Except.ok.inj same)
    rw [read] at read'
    obtain ⟨location, heading⟩ := Command.place.inj (Except.ok.inj (Except.ok.inj read'))
    obtain ⟨p, d⟩ := r
    obtain ⟨p', d'⟩ := r'
    exact congrArg₂ Robot.mk location heading
  · rintro rfl
    rfl

end Reaches

/-- The report of any robot that is not too far away to be reported is read as its placement, and if
a coordinate is out of range as parameters of none. Hence on a board that lines lead to, a report is
answered by a placement that is carried out and changes nothing, and two robots on such boards are
the same exactly if their reports are. -/
theorem report_place_inverse :
    (∀ r : Robot, ¬ r.location.IsRemote → ∃ t, r.report = .ok t ∧
      ofLine ("PLACE " ++ t) =
        if InRange r.location.x ∧ InRange r.location.y then
          .ok (.ok (.place r.location r.heading))
        else .ok (.error (.badPlace t))) ∧
    (∀ s b r, Reaches s b r → ∃ t,
      s.step b "REPORT" = .ok ⟨b, .ran .report (some t) true, none⟩ ∧
      s.step b ("PLACE " ++ t) = .ok ⟨b, .ran (.place r.location r.heading) none true, none⟩) ∧
    ∀ s s' b b' r r', Reaches s b r → Reaches s' b' r' →
      (b.answer .report s.glyphs = b'.answer .report s'.glyphs ↔ b.robot = b'.robot) := by
  refine ⟨fun r near => ?_, fun s b r reached => ?_, fun s s' b b' r r' reached reached' => ?_⟩
  · obtain ⟨t, reported, -⟩ := Robot.report_of_not_isRemote near
    exact ⟨t, reported, ofLine_place_report near reported⟩
  · obtain ⟨t, reported, read⟩ := reached.report
    exact ⟨t, reached.step_report reported, reached.step_place read⟩
  · rw [reached.answer_eq_iff reached', reached.present, reached'.present, Option.some.injEq]

/-- A robot in the last corner that placements reach stands beside its own obstacle; one step further
it could still be reported, but not be placed. -/
theorem report_place_inverse_at_limit :
    let s : Simulator := ⟨⟨⟨32768, by decide⟩, ⟨1, by decide⟩⟩, .standard⟩
    let lines := ["place 32766,0,east", "move", "right", "place_object"]
    let b : Board := ⟨.between ⟨0, 0⟩ ⟨32767, 0⟩, some ⟨⟨32767, 0⟩, .south⟩, .ofList [⟨32767, -1⟩]⟩
    let far : Robot := ⟨⟨32768, 0⟩, .south⟩
    s.replay s.initialBoard lines = .ok b ∧ s.Reaches b ⟨⟨32767, 0⟩, .south⟩ ∧
      (∃ t, s.step b "REPORT" = .ok ⟨b, .ran .report (some t) true, none⟩ ∧
        s.step b ("PLACE " ++ t) =
          .ok ⟨b, .ran (.place ⟨32767, 0⟩ .south) none true, none⟩) ∧
      ¬ far.location.IsRemote ∧
      ∃ t, far.report = .ok t ∧ ofLine ("PLACE " ++ t) = .ok (.error (.badPlace t)) := by
  intro s lines b far
  have replayed : s.replay s.initialBoard lines = .ok b := rfl
  have reached : s.Reaches b ⟨⟨32767, 0⟩, .south⟩ :=
    ⟨by decide, by decide, ⟨lines, replayed⟩, rfl⟩
  have near : ¬ far.location.IsRemote := by
    have bound : 10 ^ 5 ≤ 10 ^ Decimal.digitLimit := Nat.pow_le_pow_right (by decide) (by decide)
    intro h
    rcases h with h | h
    · exact absurd (Nat.le_trans bound h) (by decide)
    · exact absurd (Nat.le_trans bound h) (by decide)
  obtain ⟨t, reported, read⟩ := report_place_inverse.1 far near
  rw [if_neg (by decide)] at read
  exact ⟨replayed, reached, report_place_inverse.2.1 s b _ reached, near, t, reported, read⟩

end Simulator
end GridRobot
