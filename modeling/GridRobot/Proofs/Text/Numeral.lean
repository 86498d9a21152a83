import GridRobot.Text.Decimal
import Mathlib.Algebra.Group.Int.Defs
import Mathlib.Algebra.Group.Nat.Defs
import Mathlib.Tactic.Lemma

/-! Which texts are signed decimal numerals, and how many digits an integer is written with. -/
namespace GridRobot.Decimal

/-- At least one digit from 0 to 9 and nothing else. -/
def IsDigits (ds : List Char) : Prop := ds ≠ [] ∧ ∀ c ∈ ds, '0' ≤ c ∧ c ≤ '9'

lemma isDigit_eq_true_iff {c : Char} : c.isDigit = true ↔ '0' ≤ c ∧ c ≤ '9' := by
  simp only [Char.isDigit, Bool.and_eq_true, decide_eq_true_eq]
  rfl

/-- A numeral is written without a sign, with a plus or with a minus. -/
inductive Spells : List Char → Numeral → Prop
  | bare {ds : List Char} (digits : IsDigits ds) : Spells ds ⟨false, ds⟩
  | plus {ds : List Char} (digits : IsDigits ds) : Spells ('+' :: ds) ⟨false, ds⟩
  | minus {ds : List Char} (digits : IsDigits ds) : Spells ('-' :: ds) ⟨true, ds⟩

namespace Numeral

lemma unsigned?_eq_some_iff {negative : Bool} {ds : List Char} {n : Numeral} :
    unsigned? negative ds = some n ↔ IsDigits ds ∧ n = ⟨negative, ds⟩ := by
  have all : (ds ≠ [] ∧ ds.all Char.isDigit) ↔ IsDigits ds := by
    simp only [IsDigits, List.all_eq_true, isDigit_eq_true_iff]
  unfold unsigned?
  by_cases h : ds ≠ [] ∧ ds.all Char.isDigit
  · rw [if_pos h]
    constructor
    · intro given
      obtain ⟨rfl⟩ := given
      exact ⟨all.mp h, rfl⟩
    · intro given
      obtain ⟨-, rfl⟩ := given
      rfl
  · rw [if_neg h]
    constructor
    · intro given
      cases given
    · intro given
      obtain ⟨digits, -⟩ := given
      exact absurd (all.mpr digits) h

/-- The reader of numerals accepts what is spelled as one, and only that. -/
theorem ofChars?_eq_some_iff {cs : List Char} {n : Numeral} :
    ofChars? cs = some n ↔ Spells cs n := by
  constructor
  · intro h
    unfold ofChars? at h
    split at h
    · obtain ⟨digits, rfl⟩ := unsigned?_eq_some_iff.mp h
      exact .minus digits
    · obtain ⟨digits, rfl⟩ := unsigned?_eq_some_iff.mp h
      exact .plus digits
    · obtain ⟨digits, rfl⟩ := unsigned?_eq_some_iff.mp h
      exact .bare digits
  · intro h
    cases h with
    | @bare ds digits =>
      obtain ⟨c, r, rfl⟩ := List.exists_cons_of_ne_nil digits.1
      have hc := digits.2 c (by simp)
      have hm : c ≠ '-' := by rintro rfl; exact absurd hc.1 (by decide)
      have hp : c ≠ '+' := by rintro rfl; exact absurd hc.1 (by decide)
      unfold ofChars?
      split
      · simp_all
      · simp_all
      · exact unsigned?_eq_some_iff.mpr ⟨digits, rfl⟩
    | plus digits => exact unsigned?_eq_some_iff.mpr ⟨digits, rfl⟩
    | minus digits => exact unsigned?_eq_some_iff.mpr ⟨digits, rfl⟩

end Numeral

lemma Spells.unique {cs : List Char} {m n : Numeral} (hm : Spells cs m) (hn : Spells cs n) :
    m = n :=
  Option.some.inj ((Numeral.ofChars?_eq_some_iff.mpr hm).symm.trans
    (Numeral.ofChars?_eq_some_iff.mpr hn))

/-- The digits are the text itself, but for the sign. -/
lemma Spells.length_digits_le {cs : List Char} {n : Numeral} (h : Spells cs n) :
    n.digits.length ≤ cs.length := by
  cases h <;> simp

/-- There is nothing in a numeral but digits and a sign. -/
lemma Spells.not_mem {cs : List Char} {n : Numeral} (h : Spells cs n) {c : Char}
    (digit : ¬ ('0' ≤ c ∧ c ≤ '9')) (plus : c ≠ '+') (minus : c ≠ '-') : c ∉ cs := by
  have absent : ∀ ds, IsDigits ds → c ∉ ds := fun ds digits hc => digit (digits.2 c hc)
  cases h with
  | bare digits => exact absent _ digits
  | plus digits => simp [plus, absent _ digits]
  | minus digits => simp [minus, absent _ digits]

lemma isDigit_of_mem_ofNat {n : Nat} {c : Char} (h : c ∈ ofNat n) : c.isDigit = true :=
  Nat.isDigit_of_mem_toDigits (by decide) (by decide) h

lemma ofNat_ne_nil (n : Nat) : ofNat n ≠ [] := Nat.toDigits_ne_nil

/-- Only zero itself is written with a zero in front. -/
lemma head?_ofNat_ne_zero {n : Nat} (h : 0 < n) : (ofNat n).head? ≠ some '0' := by
  induction n using Nat.strongRecOn with
  | _ n ih =>
    rw [ofNat, Nat.toDigits_eq_if (by decide)]
    split
    · rw [List.head?_cons, ne_eq, Option.some.injEq, Nat.digitChar_eq_zero]
      omega
    · have quotient := ih (n / 10) (by omega) (by omega)
      obtain ⟨c, r, first⟩ := List.exists_cons_of_ne_nil (ofNat_ne_nil (n / 10))
      rw [first] at quotient
      rw [← ofNat, first]
      exact quotient

/-- An integer is too long to be written from a power of ten on. -/
lemma length_ofNat_le_iff {n k : Nat} (hk : 0 < k) : (ofNat n).length ≤ k ↔ n < 10 ^ k :=
  Nat.length_toDigits_le_iff (by decide) hk

theorem write_eq_ok_iff {i : Int} :
    (∃ cs, write i = .ok cs) ↔ i.natAbs < 10 ^ digitLimit := by
  rw [← length_ofNat_le_iff (by decide), write]
  split
  · simp; omega
  · simp; omega

lemma write_of_lt {i : Int} (h : i.natAbs < 10 ^ digitLimit) : write i = .ok (ofInt i) := by
  have short := (length_ofNat_le_iff (by decide)).mpr h
  rw [write, if_neg (Nat.not_lt.mpr short)]

/-- An integer is written with a minus if it is below zero, and with no sign otherwise. -/
lemma spells_ofInt (i : Int) : Spells (ofInt i) ⟨decide (i < 0), ofNat i.natAbs⟩ := by
  have digits (n : Nat) : IsDigits (ofNat n) :=
    ⟨ofNat_ne_nil n, fun _ hc => isDigit_eq_true_iff.mp (isDigit_of_mem_ofNat hc)⟩
  cases i with
  | ofNat n =>
    have nonnegative : decide (Int.ofNat n < 0) = false := by simp
    rw [nonnegative]
    exact .bare (digits n)
  | negSucc n =>
    have negative : decide (Int.negSucc n < 0) = true := by simp
    rw [negative]
    exact .minus (digits (n + 1))

/-- The numeral of an integer has no more digits than there may be, its sign counted or not. -/
def IsShort (k : Counting) (i : Int) : Prop :=
  Numeral.size k ⟨decide (i < 0), ofNat i.natAbs⟩ ≤ digitLimit

lemma natAbs_ten_pow (n : Nat) : (10 ^ n : Int).natAbs = 10 ^ n := Int.natAbs_pow 10 n

lemma isShort_withoutSign_iff {i : Int} : IsShort .withoutSign i ↔ i.natAbs < 10 ^ digitLimit :=
  length_ofNat_le_iff (by decide)

/-- Below zero the sign takes the room of a digit. -/
lemma isShort_withSign_iff {i : Int} :
    IsShort .withSign i ↔ i < 10 ^ digitLimit ∧ -10 ^ (digitLimit - 1) < i := by
  have limit : digitLimit = (digitLimit - 1) + 1 := rfl
  have positive (n : Nat) : 0 < 10 ^ n := Nat.pow_pos (by decide)
  have cast (n : Nat) : ((10 ^ n : Nat) : Int) = 10 ^ n := by simp
  have whole : (ofNat i.natAbs).length ≤ digitLimit ↔ i.natAbs < 10 ^ digitLimit :=
    length_ofNat_le_iff (by decide)
  have less : (ofNat i.natAbs).length ≤ digitLimit - 1 ↔ i.natAbs < 10 ^ (digitLimit - 1) :=
    length_ofNat_le_iff (by decide)
  have above := And.intro (positive digitLimit) (cast digitLimit)
  have below := And.intro (positive (digitLimit - 1)) (cast (digitLimit - 1))
  show (ofNat i.natAbs).length + (decide (i < 0)).toNat ≤ digitLimit ↔ _
  by_cases negative : i < 0
  · rw [decide_eq_true negative, Bool.toNat_true]
    omega
  · rw [decide_eq_false negative, Bool.toNat_false]
    omega

/-- With room for one digit more it does not matter whether a sign counts. -/
lemma isShort_of_lt {k : Counting} {i : Int} (h : i.natAbs < 10 ^ (digitLimit - 1)) :
    IsShort k i := by
  have short : (ofNat i.natAbs).length ≤ digitLimit - 1 :=
    (length_ofNat_le_iff (by decide)).mpr h
  cases k with
  | withoutSign => exact Nat.le_trans short (Nat.sub_le _ _)
  | withSign =>
    have sign := Bool.toNat_le (decide (i < 0))
    have limit : digitLimit = 4300 := rfl
    show (ofNat i.natAbs).length + (decide (i < 0)).toNat ≤ digitLimit
    omega

lemma value_of_spelled (i : Int) : Numeral.value ⟨decide (i < 0), ofNat i.natAbs⟩ = i := by
  simp only [Numeral.value, natValue_ofNat, decide_eq_true_eq]
  split
  · omega
  · omega

end GridRobot.Decimal
