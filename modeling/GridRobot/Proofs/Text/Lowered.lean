import GridRobot.Text.LetterCase
import GridRobot.Text.Lowered
import Mathlib.Tactic.Lemma

/-! Which texts are lowered to a plain word: only those that differ from it by the case of ASCII
letters, whatever other letters there are. -/
namespace GridRobot.Lowered

/-- An ASCII character that no other character is lowered to; the sign for kelvins becomes a k. -/
def IsPlain (c : Char) : Prop := c.toNat < 0x80 ∧ c ≠ 'k'

instance (c : Char) : Decidable (IsPlain c) := by unfold IsPlain; infer_instance

/-- A word of plain characters. -/
def PlainWord (w : List Char) : Prop := ∀ c ∈ w, IsPlain c

instance (w : List Char) : Decidable (PlainWord w) := List.decidableBAll IsPlain w

/-- In ASCII all is as with the capital letters from A to Z alone. -/
lemma small_of_ascii {c : Char} (h : c.toNat < 0x80) : small c = [c.toLower] := by
  have all : ∀ n < 0x80, small (Char.ofNat n) = [(Char.ofNat n).toLower] := by decide +kernel
  simpa using all c.toNat h

lemma ne_sigma_of_ascii {c : Char} (h : c.toNat < 0x80) : c ≠ sigma := by
  rintro rfl
  exact absurd h (by decide)

/-- A run beyond ASCII stays beyond ASCII, the sign for kelvins apart, and inside the code points
that are characters. -/
lemma run_beyond_ascii : ∀ r ∈ runs, r.last < 0x80 ∨
    ((0x80 ≤ r.small ∨ r.first = 0x212a ∧ r.last = 0x212a ∧ r.small = 'k'.toNat) ∧
      (r.small + (r.last - r.first)).isValidChar ∧
      (r.small + (r.last - r.first) < 0xd800 ∨ 0xe000 ≤ r.small)) := by
  decide +kernel

lemma codePoint_beyond_ascii {c : Char} (h : 0x80 ≤ c.toNat) :
    (codePoint c.toNat).isValidChar ∧
      (0x80 ≤ codePoint c.toNat ∨ codePoint c.toNat = 'k'.toNat) := by
  unfold codePoint
  cases found : runs.find? (·.has c.toNat) with
  | none => exact ⟨c.valid, .inl h⟩
  | some r =>
    have hr := List.mem_of_find?_eq_some found
    have inside := List.find?_some found
    simp only [Run.has, Bool.and_eq_true, decide_eq_true_eq] at inside
    simp only
    rcases run_beyond_ascii r hr with low | ⟨image, valid, gap⟩
    · omega
    · refine ⟨?_, ?_⟩
      · simp only [Nat.isValidChar] at valid ⊢
        omega
      · omega

lemma exists_not_plain_small {c : Char} (h : 0x80 ≤ c.toNat) : ∃ d ∈ small c, ¬ IsPlain d := by
  unfold small
  split
  · exact ⟨Char.ofNat 0x307, by simp, by decide⟩
  · obtain ⟨valid, image⟩ := codePoint_beyond_ascii h
    refine ⟨Char.ofNat (codePoint c.toNat), by simp, ?_⟩
    intro given
    obtain ⟨ascii, hk⟩ := given
    have back : (Char.ofNat (codePoint c.toNat)).toNat = codePoint c.toNat := by
      rw [Char.ofNat, dif_pos valid]
      exact UInt32.toNat_ofNatLT
    rcases image with beyond | kelvin
    · omega
    · exact hk (by rw [kelvin]; rfl)

lemma not_plain_smallSigma (before after : List Char) : ¬ IsPlain (smallSigma before after) := by
  unfold smallSigma
  split <;> decide

lemma behind_of_ascii {cs : List Char} (h : ∀ c ∈ cs, c.toNat < 0x80) (before : List Char) :
    behind before cs = LetterCase.lower cs := by
  induction cs generalizing before with
  | nil => rfl
  | cons c r ih =>
    have hc := h c (by simp)
    have hr := ih (fun d hd => h d (by simp [hd])) (c :: before)
    simp [behind, ne_sigma_of_ascii hc, small_of_ascii hc, hr, LetterCase.lower]

/-- A text beyond ASCII leaves a trace in what it is lowered to. -/
lemma ascii_of_behind_plain {before cs : List Char} (h : PlainWord (behind before cs)) :
    ∀ c ∈ cs, c.toNat < 0x80 := by
  induction cs generalizing before with
  | nil => simp
  | cons c r ih =>
    simp only [PlainWord, behind, List.mem_append] at h
    intro d hd
    rcases List.mem_cons.mp hd with rfl | hd
    · rcases Nat.lt_or_ge d.toNat 0x80 with ascii | beyond
      · exact ascii
      · by_cases hs : d = sigma
        · exact absurd (h _ (.inl (by simp [hs]))) (not_plain_smallSigma before r)
        · obtain ⟨e, he, trace⟩ := exists_not_plain_small beyond
          exact absurd (h e (.inl (by simpa [hs] using he))) trace
    · exact ih (fun e he => h e (.inr he)) d hd

lemma ascii_of_toLower {c : Char} (h : c.toLower.toNat < 0x80) : c.toNat < 0x80 := by
  unfold Char.toLower at h
  split at h
  · rename_i between
    have upper : c.val ≤ 'Z'.val := between.2
    have bound : c.toNat ≤ 'Z'.toNat := upper
    exact Nat.lt_of_le_of_lt bound (by decide)
  · exact h

/-- Only the case of ASCII letters can be lost on the way to a plain word. -/
theorem ofChars_eq_iff {cs w : List Char} (plain : PlainWord w) :
    ofChars cs = w ↔ LetterCase.lower cs = w := by
  constructor
  · rintro rfl
    exact (behind_of_ascii (ascii_of_behind_plain plain) []).symm
  · rintro rfl
    refine behind_of_ascii (fun c hc => ?_) []
    exact ascii_of_toLower (plain _ (List.mem_map_of_mem hc)).1

/-- The same for a word that is given in any case. -/
theorem ofChars_eq_ofChars_iff {cs w : List Char} (plain : PlainWord (LetterCase.lower w)) :
    ofChars w = ofChars cs ↔ LetterCase.SameLetters cs w := by
  have hw : ofChars w = LetterCase.lower w := (ofChars_eq_iff plain).mpr rfl
  rw [hw, eq_comm, ofChars_eq_iff plain]
  rfl

end GridRobot.Lowered
