import GridRobot.Outcome.Rendering
import GridRobot.Proofs.Data.Json.Charset
import GridRobot.Proofs.Data.Json.Decode
import GridRobot.Proofs.Result
import GridRobot.Proofs.Schema.Checked
import Mathlib.Tactic.Lemma

/-! An outcome is read back from its record, whichever of the two layouts the record is in. -/
namespace GridRobot

namespace Outcome

variable {o : Outcome} {counting : Option Decimal.Counting}

theorem ofData_toData (o : Outcome) : Outcome.ofData o.toData = .ok o := by
  have warnings : Schema.list Schema.text (.list (o.warnings.map .text)) = .ok o.warnings :=
    Checked.items_map Data.text (fun _ => rfl) 0 o.warnings
  have failure : Schema.nullable Failure.ofData ((o.failure.map Failure.toData).getD .null) =
      .ok o.failure := by
    cases o.failure <;> rfl
  have context : Schema.nullable Schema.mapping ((o.context.map Data.object).getD .null) =
      .ok o.context := by
    cases o.context <;> rfl
  refine bind_eq_ok_iff.mpr ⟨_, rfl, map_eq_ok_iff.mpr
    ⟨(o.ok, o.operation, o.data, o.warnings, o.failure, o.context), ?_, rfl⟩⟩
  simp only [Checked.both_eq_ok]
  exact ⟨Schema.required_of_get? rfl rfl, Schema.required_of_get? rfl rfl,
    Schema.withDefault_of_get? rfl rfl, Schema.withDefault_of_get? rfl warnings,
    Schema.withDefault_of_get? rfl failure, Schema.withDefault_of_get? rfl context⟩

lemma arePlain_texts (ts : List String) : Data.ArePlain counting (ts.map Data.text) := by
  induction ts with
  | nil => trivial
  | cons t ts ih => exact ⟨trivial, ih⟩

/-- A record is as plain as what the outcome carries. -/
theorem isPlain_toData (data : (Data.object o.data).IsPlain counting)
    (detail : ∀ f, o.failure = some f → (Data.object f.detail).IsPlain counting)
    (context : ∀ ms, o.context = some ms → (Data.object ms).IsPlain counting) :
    o.toData.IsPlain counting := by
  have failed : ((o.failure.map Failure.toData).getD .null).IsPlain counting := by
    cases h : o.failure with
    | none => trivial
    | some f => exact ⟨by simp, trivial, trivial, detail f h, trivial⟩
  have known : ((o.context.map Data.object).getD .null).IsPlain counting := by
    cases h : o.context with
    | none => trivial
    | some ms => exact context ms h
  exact ⟨by simp, trivial, trivial, data, arePlain_texts o.warnings, failed, known, trivial⟩

/-- What the outcome carries is written unless it goes too deep. -/
theorem write_eq_ok (data : Data.depthOfMembers o.data ≤ TooDeep.limit)
    (detail : Data.depthOfMembers ((o.failure.map Failure.detail).getD []) ≤ TooDeep.limit)
    (context : Data.depthOfMembers (o.context.getD []) ≤ TooDeep.limit) :
    o.write = .ok o.toData := by
  have shallow {ms : Members} (h : Data.depthOfMembers ms ≤ TooDeep.limit) :
      TooDeep.check ms = .ok () := by
    rw [TooDeep.check, if_neg (Nat.not_lt_of_le h)]
  rw [write, shallow data, shallow detail, shallow context]
  rfl

/-- A text that stands for an outcome: it has no control characters, hence no line break, it is
decoded to the record of the outcome, and so is the text that is rendered over several lines. -/
structure WrittenAs (o : Outcome) (text : String) : Prop where
  visible : ∀ c ∈ text.toList, 0x20 ≤ c.toNat
  decoded : Json.decode? text = some o.toData
  restored : Outcome.ofData o.toData = .ok o
  indented : ∀ verbose, ∃ spread, o.render ⟨true, verbose⟩ = .ok spread ∧
    Json.decode? spread = some o.toData

/-- As JSON for people to read, an outcome is its record spread over lines. -/
lemma render_json (written : o.write = .ok o.toData) (verbose : Bool) :
    o.render ⟨true, verbose⟩ = .ok (Json.toText .indented o.toData) := by
  rw [render, if_pos rfl, written]
  rfl

/-- The record of an outcome on one line stands for it. -/
theorem writtenAs_record (plain : o.toData.IsPlain none) (written : o.write = .ok o.toData) :
    o.WrittenAs (Json.toText .record o.toData) where
  visible := by
    rw [Json.toText, String.toList_ofList]
    exact Json.record_within.write o.toData 0 plain
  decoded := Json.decode?_toText (Json.Style.standard_of_mem _ (by simp)) plain
  restored := ofData_toData o
  indented verbose :=
    ⟨Json.toText .indented o.toData, render_json written verbose,
      Json.decode?_toText (Json.Style.standard_of_mem _ (by simp)) plain⟩

end Outcome
end GridRobot
