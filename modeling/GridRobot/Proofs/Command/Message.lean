import GridRobot.Command.Line
import Mathlib.Tactic.Lemma

/-! The messages of errors end in the text at fault. -/
namespace GridRobot.Command

lemma fill_hole {raw text : List Char} (plain : '\x7b' ∉ text) :
    LineFault.fill raw (text ++ "\x7braw\x7d".toList) = text ++ raw := by
  induction text with
  | nil => simp [LineFault.fill]
  | cons c r ih =>
    have hc : c ≠ '\x7b' := fun e => plain (by simp [e])
    have hr : '\x7b' ∉ r := fun h => plain (by simp [h])
    rw [List.cons_append, LineFault.fill]
    · rw [ih hr, List.cons_append]
    · exact fun q hq => absurd hq hc

/-- A fixed text with a hole at its end is followed by the text at fault, braces and all. -/
lemma message_eq {e : LineError} {text : String} (plain : '\x7b' ∉ text.toList)
    (template : e.fault.template.toList = text.toList ++ "\x7braw\x7d".toList) :
    e.message = text ++ e.raw := by
  rw [LineError.message, template, fill_hole plain, String.ofList_append, String.ofList_toList,
    String.ofList_toList]

lemma message_badPlace (raw : String) :
    (LineError.badPlace raw).message = "Bad PLACE parameters: " ++ raw := by
  have template : LineFault.badPlace.template.toList =
      "Bad PLACE parameters: ".toList ++ "\x7braw\x7d".toList := by decide
  exact message_eq (by decide) template

lemma message_unrecognised (raw : String) :
    (LineError.unrecognised raw).message = "Unrecognised command: " ++ raw := by
  have template : LineFault.unrecognised.template.toList =
      "Unrecognised command: ".toList ++ "\x7braw\x7d".toList := by decide
  exact message_eq (by decide) template

end GridRobot.Command
