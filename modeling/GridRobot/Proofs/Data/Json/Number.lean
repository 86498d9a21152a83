import GridRobot.Data.Json.Reader
import GridRobot.Proofs.Text.Numeral
import Mathlib.Tactic.Lemma

/-! An integer inside JSON is read back from its digits, whatever ends the number. -/
namespace GridRobot.Json

/-- Nothing here could be taken for a part of the number before it. -/
def Ends (r : List Char) : Prop :=
  ∀ c ∈ r.head?, c.isDigit = false ∧ c ≠ '.' ∧ c ≠ 'e' ∧ c ≠ 'E'

lemma ends_cons {c : Char} {r : List Char} (digit : c.isDigit = false)
    (other : c ≠ '.' ∧ c ≠ 'e' ∧ c ≠ 'E') : Ends (c :: r) := by
  simp [Ends, digit, other]

open Decimal

variable {d : Dialect} {r ds : List Char}

lemma digitSpan_append (digits : ∀ c ∈ ds, c.isDigit = true) (h : Ends r) :
    digitSpan (ds ++ r) = (ds, r) := by
  have stops : r.takeWhile Char.isDigit = [] ∧ r.dropWhile Char.isDigit = r := by
    cases r with
    | nil => exact ⟨rfl, rfl⟩
    | cons c r =>
      have hc := (h c rfl).1
      simp [hc]
  rw [digitSpan, List.takeWhile_append_of_pos digits, List.dropWhile_append_of_pos digits,
    stops.1, stops.2, List.append_nil]

lemma readFraction_of_ends (h : Ends r) : readFraction r = some ([], r) := by
  cases r with
  | nil => rfl
  | cons c r =>
    have hc := (h c rfl).2.1
    rw [readFraction]
    intro q hq
    exact hc (List.cons.inj hq).1

lemma readExponent_of_ends (h : Ends r) : readExponent r = some (none, r) := by
  cases r with
  | nil => rfl
  | cons c r =>
    have hc := (h c rfl).2.2
    simp only [readExponent, if_neg (not_or.mpr hc)]

/-- The digits of a natural number are an integer without leading zeros, unless there are too many. -/
lemma readUnsigned_ofNat (n : Nat) (negative : Bool) (h : Ends r) :
    readUnsigned d negative (ofNat n ++ r) =
      if d.refuses ⟨negative, ofNat n⟩ false then none
      else some (.int (Numeral.value ⟨negative, ofNat n⟩), r) := by
  have digits : ∀ c ∈ ofNat n, c.isDigit = true := fun c hc => isDigit_of_mem_ofNat hc
  have span := digitSpan_append digits h
  have leading : ∀ c t, ofNat n ≠ '0' :: c :: t := by
    intro c t zero
    rcases Nat.eq_zero_or_pos n with rfl | positive
    · cases zero
    · exact head?_ofNat_ne_zero positive (by rw [zero]; rfl)
  obtain ⟨c, t, first⟩ := List.exists_cons_of_ne_nil (ofNat_ne_nil n)
  have hc : c.isDigit = true := digits c (by simp [first])
  unfold readUnsigned
  split
  · rename_i infinity
    rw [first, List.cons_append] at infinity
    rw [(List.cons.inj infinity).1] at hc
    exact absurd hc (by decide)
  · simp only [span]
    split
    · exact absurd ‹_› (ofNat_ne_nil n)
    · exact absurd ‹_› (leading _ _)
    · simp only [readFraction_of_ends h, readExponent_of_ends h, Bool.false_eq_true, if_false,
        Option.bind_eq_bind, Option.bind_some]

lemma head_ofInt (i : Int) :
    ∃ c t, ofInt i = c :: t ∧ (c = '-' ∨ c.isDigit = true) := by
  cases i with
  | ofNat m =>
    obtain ⟨c, t, first⟩ := List.exists_cons_of_ne_nil (ofNat_ne_nil m)
    exact ⟨c, t, first, .inr (isDigit_of_mem_ofNat (n := m) (by simp [first]))⟩
  | negSucc m => exact ⟨'-', _, rfl, .inl rfl⟩

/-- A dialect refuses an integer whose numeral has more digits than there may be. -/
lemma refuses_eq_true_iff {i : Int} :
    d.refuses ⟨decide (i < 0), ofNat i.natAbs⟩ false = true ↔
      ∃ k ∈ d.counting, ¬ IsShort k i := by
  simp [Dialect.refuses, Option.any_eq_true, Numeral.exceeds, IsShort]

/-- An integer is read back from its digits if and only if there are not too many of them. -/
theorem readNumber_ofInt (d : Dialect) (i : Int) (h : Ends r) :
    readNumber d (ofInt i ++ r) =
      if d.refuses ⟨decide (i < 0), ofNat i.natAbs⟩ false then none else some (.int i, r) := by
  cases i with
  | ofNat m =>
    obtain ⟨c, t, first⟩ := List.exists_cons_of_ne_nil (ofNat_ne_nil m)
    have hc : c.isDigit = true := isDigit_of_mem_ofNat (n := m) (by simp [first])
    have other {s : Char} (sign : s.isDigit = false) : c ≠ s := by
      rintro rfl
      rw [hc] at sign
      cases sign
    have unsigned : readNumber d (ofNat m ++ r) = readUnsigned d false (ofNat m ++ r) := by
      rw [first, List.cons_append, readNumber]
      · exact fun _ e => other (by decide) (List.cons.inj e).1
      · exact fun _ e => other (by decide) (List.cons.inj e).1
    have value : Numeral.value ⟨false, ofNat m⟩ = Int.ofNat m := by simp [Numeral.value]
    have nonnegative : decide (Int.ofNat m < 0) = false := by simp
    have read := unsigned.trans (readUnsigned_ofNat m false h)
    rw [value] at read
    rw [nonnegative]
    exact read
  | negSucc m =>
    have value : Numeral.value ⟨true, ofNat (m + 1)⟩ = Int.negSucc m := by
      simp only [Numeral.value, natValue_ofNat, if_true]
      rfl
    have negative : decide (Int.negSucc m < 0) = true := by simp
    have read := readUnsigned_ofNat (d := d) (m + 1) true h
    rw [value] at read
    rw [negative]
    exact read

end GridRobot.Json
