import GridRobot.Proofs.Command.Payload
import GridRobot.Proofs.Outcome.Record
import GridRobot.Simulator.Outcome
import Mathlib.Data.List.Nodup
import Mathlib.Tactic.Lemma

/-! The outcome of any line can be written down and read back: a placement anywhere, an answer with
any characters in it, and any line that is no command. -/
namespace GridRobot

namespace LineReading

theorem isPlain_outcome (reading : LineReading) : reading.outcome.toData.IsPlain none := by
  cases reading with
  | error e =>
    refine Outcome.isPlain_toData ⟨List.nodup_nil, trivial⟩ (fun f given => ?_) nofun
    cases given
    exact ⟨List.nodup_singleton _, trivial, trivial⟩
  | ok c => exact Outcome.isPlain_toData c.isPlain_toData nofun nofun

theorem write_outcome (reading : LineReading) :
    reading.outcome.write = .ok reading.outcome.toData := by
  cases reading with
  | error e =>
    have detail : Data.depthOfMembers [("raw", .text e.raw)] = 1 := rfl
    exact Outcome.write_eq_ok (Nat.zero_le _) (detail ▸ (by decide : 1 ≤ TooDeep.limit))
      (Nat.zero_le _)
  | ok c =>
    have command : Data.depthOfMembers c.toMembers + 1 ≤ 3 := c.depth_toData_le
    have limit : TooDeep.limit = 255 := rfl
    exact Outcome.write_eq_ok (show Data.depthOfMembers c.toMembers ≤ _ by omega) (Nat.zero_le _)
      (Nat.zero_le _)

end LineReading

namespace StepReport

theorem isPlain_outcomeAt (r : StepReport) (line : Nat) :
    (r.outcomeAt line).toData.IsPlain none := by
  have numbered : (Data.object [("line", .int line)]).IsPlain none :=
    ⟨List.nodup_singleton _, Data.isPlain_int line, trivial⟩
  have context : ∀ ms, (r.outcomeAt line).context = some ms → (Data.object ms).IsPlain none := by
    intro ms given
    cases given
    exact numbered
  cases r with
  | failed e =>
    refine Outcome.isPlain_toData ⟨List.nodup_nil, trivial⟩ (fun f given => ?_) context
    cases given
    exact ⟨List.nodup_singleton _, trivial, trivial⟩
  | ran c output committed =>
    have distinct : ["command", "output", "committed"].Nodup := by decide
    have answer : ((output.map Data.text).getD .null).IsPlain none := by
      cases output <;> trivial
    refine Outcome.isPlain_toData ?_ (fun f given => nomatch given) context
    exact ⟨distinct, c.isPlain_toData, answer, trivial, trivial⟩

theorem write_outcomeAt (r : StepReport) (line : Nat) :
    (r.outcomeAt line).write = .ok (r.outcomeAt line).toData := by
  have numbered : Data.depthOfMembers [("line", .int line)] = 1 := rfl
  have context : Data.depthOfMembers [("line", .int line)] ≤ TooDeep.limit := by
    rw [numbered]
    decide
  cases r with
  | failed e =>
    have detail : Data.depthOfMembers [("raw", .text e.raw)] = 1 := rfl
    refine Outcome.write_eq_ok (Nat.zero_le _) ?_ context
    exact detail ▸ (by decide : 1 ≤ TooDeep.limit)
  | ran c output committed =>
    have command := c.depth_toData_le
    have answer : ((output.map Data.text).getD .null).depth = 1 := by cases output <;> rfl
    have deepest : Data.depthOfMembers (ran c output committed).outcome.data =
        max c.toData.depth (max ((output.map Data.text).getD .null).depth 1) := rfl
    refine Outcome.write_eq_ok ?_ (Nat.zero_le _) context
    have limit : TooDeep.limit = 255 := rfl
    rw [outcomeAt, deepest, answer, limit]
    omega

/-- Whatever came of a line, its record stands for it. -/
theorem writtenAs_outcomeAt (r : StepReport) (line : Nat) :
    (r.outcomeAt line).WrittenAs (Json.toText .record (r.outcomeAt line).toData) :=
  Outcome.writtenAs_record (r.isPlain_outcomeAt line) (r.write_outcomeAt line)

end StepReport
end GridRobot
