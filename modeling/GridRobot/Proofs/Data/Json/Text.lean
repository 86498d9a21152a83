import GridRobot.Data.Json
import GridRobot.Data.Json.Reader
import GridRobot.Proofs.Text.Hexadecimal
import Mathlib.Tactic.Lemma

/-! A text inside JSON is read back as it was written, whatever was written as an escape. -/
namespace GridRobot.Json

variable {n : Nat} {c : Char} {r : List Char}

lemma readHex4_padded {k : Nat} (hk : k < 0x10000) :
    readHex4 (Hexadecimal.padded 4 k ++ r) = some (k, r) := by
  rw [Hexadecimal.padded_four hk]
  simp only [List.cons_append, List.nil_append, readHex4, Hexadecimal.value?_digitChar,
    Option.bind_eq_bind, Option.bind_some, Option.pure_def, Option.some.injEq, Prod.mk.injEq,
    and_true]
  omega

/-- What is read after one more code point. -/
def following (k : Nat) (t : Option (List Nat × List Char)) : Option (List Nat × List Char) :=
  t.map fun p => (k :: p.1, p.2)

lemma readText_quote : readText (n + 1) ('"' :: r) = some ([], r) := by simp [readText]

lemma readText_plain (quote : c ≠ '"') (slash : c ≠ '\\') (visible : 0x20 ≤ c.toNat) :
    readText (n + 1) (c :: r) = following c.toNat (readText n r) := by
  have printed : ¬ (c.toNat < 0x20 ∨ c = '\\') := by
    intro given
    rcases given with control | rfl
    · omega
    · exact slash rfl
  rw [readText.eq_def]
  simp only
  split
  · contradiction
  · rename_i h; cases h; exact absurd rfl quote
  · rename_i h; cases h; exact absurd rfl slash
  · rename_i h; cases h; exact absurd rfl slash
  · rename_i h
    cases h
    rw [if_neg printed]
    cases readText n r <;> rfl

lemma readText_short {e : Char} (letter : e ≠ 'u') (short : shortEscape? e = some c) :
    readText (n + 1) ('\\' :: e :: r) = following c.toNat (readText n r) := by
  rw [readText.eq_def]
  simp only [short, Option.bind_eq_bind, Option.bind_some]
  cases readText n r <;> rfl

lemma readText_unicode {k : Nat} {t : List Char} (read : readUnicode t = some (k, r)) :
    readText (n + 1) ('\\' :: 'u' :: t) = following k (readText n r) := by
  rw [readText.eq_def]
  simp only [read, Option.bind_eq_bind, Option.bind_some]
  cases readText n r <;> rfl

section Unicode

variable {k m : Nat} {t q : List Char}

/-- Only a high surrogate is joined with what follows. -/
lemma readUnicode_single (first : readHex4 t = some (k, r)) (h : CodePoint.isHigh k = false) :
    readUnicode t = some (k, r) := by
  have alone : readUnicode.partner? k r = none := by
    unfold readUnicode.partner?
    split
    · simp [h]
    · rfl
  rw [readUnicode, first]
  simp only [alone, Option.bind_eq_bind, Option.bind_some, Option.map_none, Option.getD_none,
    Option.pure_def]

lemma readUnicode_pair (first : readHex4 t = some (k, '\\' :: 'u' :: q))
    (second : readHex4 q = some (m, r)) (high : CodePoint.isHigh k = true)
    (low : CodePoint.isLow m = true) : readUnicode t = some (CodePoint.joined k m, r) := by
  have partner : readUnicode.partner? k ('\\' :: 'u' :: q) = some (m, r) := by
    simp [readUnicode.partner?, second, high, low]
  rw [readUnicode, first]
  simp only [partner, Option.bind_eq_bind, Option.bind_some, Option.map_some, Option.getD_some,
    Option.pure_def]

end Unicode

/-- An escape that is no surrogate stands for a code point of its own. -/
lemma readText_unit {k : Nat} (plane : k < 0x10000) (scalar : k < 0xd800 ∨ 0xe000 ≤ k) :
    readText (n + 1) (unicodeEscape k ++ r) = following k (readText n r) := by
  have high : CodePoint.isHigh k = false := by
    simp only [CodePoint.isHigh, Bool.and_eq_false_iff, decide_eq_false_iff_not]
    omega
  exact readText_unicode (readUnicode_single (readHex4_padded plane) high)

/-- A high and a low surrogate stand for one code point together. -/
lemma readText_pair {k m : Nat} (hk : k < 0x400) (hm : m < 0x400) :
    readText (n + 1) (unicodeEscape (0xd800 + k) ++ (unicodeEscape (0xdc00 + m) ++ r)) =
      following (0x10000 + k * 0x400 + m) (readText n r) := by
  have high : CodePoint.isHigh (0xd800 + k) = true := by
    simp only [CodePoint.isHigh, Bool.and_eq_true, decide_eq_true_eq]
    omega
  have low : CodePoint.isLow (0xdc00 + m) = true := by
    simp only [CodePoint.isLow, Bool.and_eq_true, decide_eq_true_eq]
    omega
  have joined : CodePoint.joined (0xd800 + k) (0xdc00 + m) = 0x10000 + k * 0x400 + m := by
    unfold CodePoint.joined
    omega
  rw [← joined]
  exact readText_unicode
    (readUnicode_pair (readHex4_padded (by omega)) (readHex4_padded (by omega)) high low)

lemma toNat_scalar (c : Char) : c.toNat < 0xd800 ∨ 0xdfff < c.toNat ∧ c.toNat < 0x110000 :=
  c.valid

lemma eq_ofNat_of_toNat_eq {k : Nat} (h : c.toNat = k) : c = Char.ofNat k := by
  rw [← h, Char.ofNat_toNat]

lemma readText_asciiEscape :
    readText (n + 1) (asciiEscape c.toNat ++ r) = following c.toNat (readText n r) := by
  have scalar := toNat_scalar c
  unfold asciiEscape
  by_cases plane : c.toNat < 0x10000
  · rw [if_pos plane, readText_unit plane (by omega)]
  · rw [if_neg plane, List.append_assoc, readText_pair (by omega) (by omega)]
    have whole : 0x10000 + (c.toNat - 0x10000) / 0x400 * 0x400 + (c.toNat - 0x10000) % 0x400 =
        c.toNat := by omega
    rw [whole]

/-- Every character is read back from what is written for it. -/
theorem readText_escape (ascii : Bool) (c : Char) (n : Nat) (r : List Char) :
    readText (n + 1) (escape ascii c ++ r) = following c.toNat (readText n r) := by
  unfold escape
  split
  · rename_i self
    obtain rfl | rfl := self
    · exact readText_short (by decide) rfl
    · exact readText_short (by decide) rfl
  split
  · subst c; exact readText_short (by decide) rfl
  split
  · subst c; exact readText_short (by decide) rfl
  split
  · subst c; exact readText_short (by decide) rfl
  split
  · rename_i code
    cases eq_ofNat_of_toNat_eq code
    exact readText_short (by decide) rfl
  split
  · rename_i code
    cases eq_ofNat_of_toNat_eq code
    exact readText_short (by decide) rfl
  split
  · rename_i control
    exact readText_unit (by omega) (by omega)
  split
  · exact readText_asciiEscape
  · rename_i self _ _ _ _ _ visible _
    obtain ⟨quote, slash⟩ := not_or.mp self
    exact readText_plain quote slash (Nat.le_of_not_lt visible)

/-- A text ends at the first quote that is not escaped. -/
theorem readText_write (ascii : Bool) (cs : List Char) (h : cs.length < n) :
    readText n (cs.flatMap (escape ascii) ++ '"' :: r) = some (cs.map Char.toNat, r) := by
  induction cs generalizing n with
  | nil =>
    cases n with
    | zero => contradiction
    | succ n => exact readText_quote
  | cons c cs ih =>
    cases n with
    | zero => contradiction
    | succ n =>
      have rest := ih (Nat.lt_of_succ_lt_succ h)
      rw [List.flatMap_cons, List.append_assoc, readText_escape, rest]
      rfl

lemma length_asciiEscape_pos (k : Nat) : 0 < (asciiEscape k).length := by
  unfold asciiEscape
  split
  · exact Nat.succ_pos _
  · exact Nat.succ_pos _

lemma length_escape_pos (ascii : Bool) (c : Char) : 0 < (escape ascii c).length := by
  unfold escape
  repeat' split
  all_goals first | exact Nat.succ_pos _ | exact length_asciiEscape_pos _

/-- Escapes only make a text longer. -/
lemma length_le_length_escaped (ascii : Bool) (cs : List Char) :
    cs.length ≤ (cs.flatMap (escape ascii)).length := by
  induction cs with
  | nil => exact Nat.le_refl 0
  | cons c cs ih =>
    have one := length_escape_pos ascii c
    simp only [List.flatMap_cons, List.length_append, List.length_cons]
    omega

lemma length_writeText (ascii : Bool) (cs : List Char) :
    cs.length + 2 ≤ (writeText ascii cs).length := by
  have inner := length_le_length_escaped ascii cs
  simp only [writeText, List.length_cons, List.length_append, List.length_nil]
  omega

end GridRobot.Json
