import GridRobot.Text.Hexadecimal
import Mathlib.Tactic.Lemma

/-! The digits of padded hexadecimal numerals. -/
namespace GridRobot.Hexadecimal

lemma value?_digitChar_all : ∀ d < 16, value? (Nat.digitChar d) = some d := by decide

lemma value?_digitChar (n : Nat) : value? (Nat.digitChar (n % 16)) = some (n % 16) :=
  value?_digitChar_all _ (Nat.mod_lt n (by decide))

lemma mem_toDigits {n : Nat} {c : Char} (hc : c ∈ Nat.toDigits 16 n) :
    ∃ d < 16, c = Nat.digitChar d := by
  induction n using Nat.strongRecOn with
  | _ n ih =>
    by_cases single : n < 16
    · rw [Nat.toDigits_of_lt_base single] at hc
      exact ⟨n, single, List.mem_singleton.mp hc⟩
    · rw [Nat.toDigits_of_base_le (by decide) (Nat.le_of_not_lt single)] at hc
      rcases List.mem_append.mp hc with first | last
      · exact ih (n / 16) (by omega) first
      · exact ⟨n % 16, Nat.mod_lt n (by decide), List.mem_singleton.mp last⟩

/-- With padding or without, nothing but the sixteen digits is written. -/
lemma mem_padded {k n : Nat} {c : Char} (hc : c ∈ padded k n) :
    ∃ d < 16, c = Nat.digitChar d := by
  rcases List.mem_append.mp hc with zero | digit
  · exact ⟨0, by decide, List.eq_of_mem_replicate zero⟩
  · exact mem_toDigits digit

lemma padded_one {n : Nat} (h : n < 16) : padded 1 n = [Nat.digitChar n] := by
  simp [padded, Nat.toDigits_of_lt_base h]

/-- Padding is added in front, so that the last digit is split off in any case. -/
lemma padded_succ {k : Nat} (hk : 0 < k) (n : Nat) :
    padded (k + 1) n = padded k (n / 16) ++ [Nat.digitChar (n % 16)] := by
  by_cases h : n < 16
  · have quotient : n / 16 = 0 := Nat.div_eq_of_lt h
    have zeros : List.replicate k '0' = List.replicate (k - 1) '0' ++ ['0'] := by
      rw [← List.replicate_succ', Nat.sub_add_cancel hk]
    simp [padded, Nat.toDigits_of_lt_base h, quotient, Nat.mod_eq_of_lt h, zeros]
  · have last := Nat.toDigits_of_base_le (b := 16) (by decide) (Nat.le_of_not_lt h)
    simp only [padded, last, List.length_append, List.length_singleton, Nat.add_sub_add_right,
      List.append_assoc]

lemma padded_four {n : Nat} (h : n < 0x10000) :
    padded 4 n = [Nat.digitChar (n / 16 / 16 / 16 % 16), Nat.digitChar (n / 16 / 16 % 16),
      Nat.digitChar (n / 16 % 16), Nat.digitChar (n % 16)] := by
  have first : n / 16 / 16 / 16 < 16 := by omega
  rw [padded_succ (by decide), padded_succ (by decide), padded_succ (by decide), padded_one first,
    Nat.mod_eq_of_lt first]
  rfl

end GridRobot.Hexadecimal
