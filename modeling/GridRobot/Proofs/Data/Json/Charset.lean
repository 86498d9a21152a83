import GridRobot.Data.Json
import GridRobot.Proofs.Data.Plain
import GridRobot.Proofs.Text.Hexadecimal
import GridRobot.Proofs.Text.Numeral
import Mathlib.Tactic.Lemma
import Mathlib.Tactic.SplitIfs

/-! Which characters stand in JSON that is written: whatever a text holds, its escapes are graphic,
and so is all that stands between the texts, line breaks apart. -/
namespace GridRobot.Json

/-- All characters are of graphic ASCII, the space included. -/
def IsGraphic (cs : List Char) : Prop := ∀ c ∈ cs, 0x20 ≤ c.toNat ∧ c.toNat < 0x7f

instance (cs : List Char) : Decidable (IsGraphic cs) :=
  List.decidableBAll (fun c : Char => 0x20 ≤ c.toNat ∧ c.toNat < 0x7f) cs

/-- A style that writes no characters but some, among them those of graphic ASCII. -/
structure Style.Within (s : Style) (P : Char → Prop) : Prop where
  breaks : ∀ level, ∀ c ∈ lineBreak s level, P c
  graphic : ∀ cs, IsGraphic cs → ∀ c ∈ cs, P c
  comma : ∀ c ∈ s.comma, P c
  colon : ∀ c ∈ s.colon, P c
  escaped : ∀ c, ∀ e ∈ escape s.ascii c, P e

section Written

variable {s : Style} {P : Char → Prop} {counting : Option Decimal.Counting}

lemma graphic_digitChar_all :
    ∀ d < 16, 0x20 ≤ (Nat.digitChar d).toNat ∧ (Nat.digitChar d).toNat < 0x7f := by decide

lemma Style.Within.character (h : s.Within P) {c : Char} (graphic : IsGraphic [c]) : P c :=
  h.graphic [c] graphic c (List.mem_singleton_self c)

lemma graphic_of_isDigit {c : Char} (digit : c.isDigit = true) :
    0x20 ≤ c.toNat ∧ c.toNat < 0x7f := by
  obtain ⟨low, high⟩ := Decimal.isDigit_eq_true_iff.mp digit
  have least : '0'.toNat ≤ c.toNat := low
  have most : c.toNat ≤ '9'.toNat := high
  have zero : '0'.toNat = 0x30 := rfl
  have nine : '9'.toNat = 0x39 := rfl
  omega

lemma isGraphic_ofInt (i : Int) : IsGraphic (Decimal.ofInt i) := by
  intro c hc
  cases i with
  | ofNat n => exact graphic_of_isDigit (Decimal.isDigit_of_mem_ofNat hc)
  | negSucc n =>
    rcases List.mem_cons.mp hc with rfl | later
    · decide
    · exact graphic_of_isDigit (Decimal.isDigit_of_mem_ofNat later)

lemma Style.Within.writeText (h : s.Within P) (cs : List Char) :
    ∀ c ∈ Json.writeText s.ascii cs, P c := by
  have quote : P '"' := h.character (by decide)
  intro c hc
  simp only [Json.writeText, List.mem_cons, List.mem_append, List.mem_flatMap, List.not_mem_nil,
    or_false] at hc
  rcases hc with rfl | ⟨d, -, hd⟩ | rfl
  · exact quote
  · exact h.escaped d c hd
  · exact quote

mutual

theorem Style.Within.write (h : s.Within P) :
    ∀ (x : Data) (level : Nat), x.IsPlain counting → ∀ c ∈ Json.write s level x, P c
  | .null, _, _ => by rw [Json.write]; exact h.graphic _ (by decide)
  | .bool true, _, _ => by rw [Json.write]; exact h.graphic _ (by decide)
  | .bool false, _, _ => by rw [Json.write]; exact h.graphic _ (by decide)
  | .int i, _, _ => by rw [Json.write]; exact h.graphic _ (isGraphic_ofInt i)
  | .float _, _, plain => plain.elim
  | .text t, _, _ => by rw [Json.write]; exact h.writeText t.toList
  | .moment _, _, plain => plain.elim
  | .list [], _, _ => by rw [Json.write]; exact h.graphic _ (by decide)
  | .list (x :: xs), level, plain => by
    have left : P '[' := h.character (by decide)
    have right : P ']' := h.character (by decide)
    have breaks := h.breaks
    have first := h.write x (level + 1) plain.1
    have others := h.writeItems xs (level + 1) plain.2
    simp only [Json.write]
    grind
  | .object [], _, _ => by rw [Json.write]; exact h.graphic _ (by decide)
  | .object ((k, x) :: ms), level, plain => by
    have left : P '\x7b' := h.character (by decide)
    have right : P '\x7d' := h.character (by decide)
    have breaks := h.breaks
    have name := h.writeText k.toList
    have colon := h.colon
    have first := h.write x (level + 1) plain.2.1
    have others := h.writeMembers ms (level + 1) plain.2.2
    simp only [Json.write]
    grind

theorem Style.Within.writeItems (h : s.Within P) :
    ∀ (xs : List Data) (level : Nat), Data.ArePlain counting xs →
      ∀ c ∈ Json.writeItems s level xs, P c
  | [], _, _ => by simp [Json.writeItems]
  | x :: xs, level, plain => by
    have comma := h.comma
    have breaks := h.breaks
    have first := h.write x level plain.1
    have others := h.writeItems xs level plain.2
    simp only [Json.writeItems]
    grind

theorem Style.Within.writeMembers (h : s.Within P) :
    ∀ (ms : List (String × Data)) (level : Nat), Members.ArePlain counting ms →
      ∀ c ∈ Json.writeMembers s level ms, P c
  | [], _, _ => by simp [Json.writeMembers]
  | (k, x) :: ms, level, plain => by
    have comma := h.comma
    have colon := h.colon
    have breaks := h.breaks
    have name := h.writeText k.toList
    have first := h.write x level plain.1
    have others := h.writeMembers ms level plain.2
    simp only [Json.writeMembers]
    grind

end

end Written

/-- An escape of one character: a backslash, the letter u and four hexadecimal digits. -/
lemma isGraphic_unicodeEscape {n : Nat} (plane : n < 0x10000) : IsGraphic (unicodeEscape n) := by
  have digit (m : Nat) := graphic_digitChar_all (m % 16) (Nat.mod_lt m (by decide))
  have start : IsGraphic ['\\', 'u'] := by decide
  rw [unicodeEscape, Hexadecimal.padded_four plane]
  simp only [IsGraphic, List.forall_mem_cons, digit, and_self, true_and] at start ⊢
  exact start

lemma visible_of_isGraphic {cs : List Char} (graphic : IsGraphic cs) :
    ∀ c ∈ cs, 0x20 ≤ c.toNat :=
  fun c hc => (graphic c hc).1

/-- Control characters are never written as they are. -/
lemma visible_escape (c : Char) : ∀ e ∈ escape false c, 0x20 ≤ e.toNat := by
  unfold escape
  split_ifs with special newline carriage tab backspace feed control ascii
  · obtain rfl | rfl := special <;> exact visible_of_isGraphic (by decide)
  · exact visible_of_isGraphic (by decide)
  · exact visible_of_isGraphic (by decide)
  · exact visible_of_isGraphic (by decide)
  · exact visible_of_isGraphic (by decide)
  · exact visible_of_isGraphic (by decide)
  · exact visible_of_isGraphic (isGraphic_unicodeEscape (by omega))
  · exact absurd ascii.1 id
  · intro e he
    rw [List.mem_singleton.mp he]
    omega

/-- A record on one line has no control characters in it, and so no line break. -/
lemma record_within : Style.record.Within fun c => 0x20 ≤ c.toNat where
  breaks _ := nofun
  graphic _ := visible_of_isGraphic
  comma := visible_of_isGraphic (by decide)
  colon := visible_of_isGraphic (by decide)
  escaped := visible_escape

/-- In a record on several lines the line breaks are the only control characters. -/
lemma indented_within : Style.indented.Within fun c => 0x20 ≤ c.toNat ∨ c = '\n' where
  breaks level c hc := by
    rcases List.mem_cons.mp hc with rfl | indent
    · exact .inr rfl
    · rw [List.eq_of_mem_replicate indent]
      exact .inl (by decide)
  graphic _ graphic c hc := .inl (graphic c hc).1
  comma c hc := .inl (visible_of_isGraphic (by decide : IsGraphic [',']) c hc)
  colon c hc := .inl (visible_of_isGraphic (by decide : IsGraphic [':', ' ']) c hc)
  escaped c e he := .inl (visible_escape c e he)

/-- Beyond the first plane an escape is two escapes of one character. -/
lemma isGraphic_asciiEscape (c : Char) : IsGraphic (asciiEscape c.toNat) := by
  have scalar : c.toNat < 0xd800 ∨ 0xdfff < c.toNat ∧ c.toNat < 0x110000 := c.valid
  unfold asciiEscape
  split_ifs with plane
  · exact isGraphic_unicodeEscape plane
  · intro e he
    rcases List.mem_append.mp he with high | low
    · exact isGraphic_unicodeEscape (by omega) e high
    · exact isGraphic_unicodeEscape (by omega) e low

/-- Where only ASCII is written, every escape is graphic. -/
lemma isGraphic_escape (c : Char) : IsGraphic (escape true c) := by
  unfold escape
  split_ifs with special newline carriage tab backspace feed control beyond
  · obtain rfl | rfl := special <;> decide
  · decide
  · decide
  · decide
  · decide
  · decide
  · exact isGraphic_unicodeEscape (by omega)
  · exact isGraphic_asciiEscape c
  · intro e he
    have within : ¬ 0x7f ≤ c.toNat := fun high => beyond ⟨rfl, high⟩
    rw [List.mem_singleton.mp he]
    omega

/-- A line of the log is graphic ASCII throughout. -/
lemma log_within : Style.log.Within fun c => 0x20 ≤ c.toNat ∧ c.toNat < 0x7f where
  breaks _ := nofun
  graphic _ := id
  comma := (by decide : IsGraphic [',', ' '])
  colon := (by decide : IsGraphic [':', ' '])
  escaped := isGraphic_escape

end GridRobot.Json
