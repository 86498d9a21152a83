import GridRobot.Proofs.Text.Hexadecimal
import GridRobot.Text.Quoted
import Mathlib.Tactic.Lemma
import Mathlib.Tactic.SplitIfs

/-! Whatever a text holds, it is quoted in printable characters. -/
namespace GridRobot

/-- All characters are printed as they are. -/
def Printable.Throughout (cs : List Char) : Prop := ∀ c ∈ cs, isPrintable c = true

instance (cs : List Char) : Decidable (Printable.Throughout cs) :=
  List.decidableBAll (fun c : Char => Printable.isPrintable c = true) cs

namespace Printable

variable {cs ds : List Char} {c : Char}

lemma throughout_append : Throughout (cs ++ ds) ↔ Throughout cs ∧ Throughout ds :=
  List.forall_mem_append

lemma Throughout.append {s t : String} (hs : Throughout s.toList) (ht : Throughout t.toList) :
    Throughout (s ++ t).toList := by
  rw [String.toList_append, throughout_append]
  exact ⟨hs, ht⟩

lemma isPrintable_of_ascii (low : 0x20 ≤ c.toNat) (high : c.toNat < 0x7f) :
    isPrintable c = true := by
  rw [isPrintable, if_pos high]
  exact decide_eq_true low

lemma inRanges_delete : inRanges unprintable 0x7f = true := by
  rw [inRanges, unprintable, List.any_cons]
  rfl

/-- Neither the control characters of ASCII nor the one behind its last letter are printable. -/
theorem not_control_of_isPrintable (printable : isPrintable c = true) :
    0x20 ≤ c.toNat ∧ c.toNat ≠ 0x7f := by
  rw [isPrintable] at printable
  split_ifs at printable with ascii
  · exact ⟨of_decide_eq_true printable, by omega⟩
  · refine ⟨by omega, fun delete => ?_⟩
    rw [delete, inRanges_delete] at printable
    cases printable

end Printable

namespace Quoted
open Printable

variable {q : Char}

lemma printable_digitChar_all : ∀ d < 16, isPrintable (Nat.digitChar d) = true := by decide

lemma throughout_padded (k n : Nat) : Throughout (Hexadecimal.padded k n) := by
  intro c hc
  obtain ⟨d, digit, rfl⟩ := Hexadecimal.mem_padded hc
  exact printable_digitChar_all d digit

/-- An escape in digits is the backslash, a letter and hexadecimal digits, however long it is. -/
lemma throughout_hexEscape (n : Nat) : Throughout (hexEscape n) := by
  have after (letter : Char) (k : Nat) (printable : Throughout ['\\', letter]) :
      Throughout ('\\' :: letter :: Hexadecimal.padded k n) :=
    throughout_append.mpr ⟨printable, throughout_padded k n⟩
  unfold hexEscape
  split_ifs
  · exact after 'x' 2 (by decide)
  · exact after 'u' 4 (by decide)
  · exact after 'U' 8 (by decide)

lemma throughout_escape (quote : isPrintable q = true) (c : Char) : Throughout (escape q c) := by
  have backslashed {d : Char} (printable : isPrintable d = true) : Throughout ['\\', d] :=
    List.forall_mem_cons.mpr ⟨by decide, List.forall_mem_singleton.mpr printable⟩
  unfold escape
  split_ifs with special newline carriage tab printable
  · obtain rfl | rfl := special
    · exact backslashed quote
    · exact backslashed (by decide)
  · decide
  · decide
  · decide
  · exact List.forall_mem_singleton.mpr printable
  · exact throughout_hexEscape c.toNat

lemma isPrintable_quoteFor (cs : List Char) : isPrintable (quoteFor cs) = true := by
  unfold quoteFor
  split_ifs <;> decide

theorem throughout_write (cs : List Char) : Throughout (write cs) := by
  have quote := isPrintable_quoteFor cs
  intro c hc
  rw [write, List.mem_cons, List.mem_append, List.mem_flatMap, List.mem_singleton] at hc
  rcases hc with rfl | ⟨d, -, escaped⟩ | rfl
  · exact quote
  · exact throughout_escape quote d c escaped
  · exact quote

theorem throughout_quote (s : String) : Throughout (Quoted.quote s).toList := by
  rw [Quoted.quote, String.toList_ofList]
  exact throughout_write s.toList

end Quoted
end GridRobot
