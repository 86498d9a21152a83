import GridRobot.Proofs.Command.Reading
import GridRobot.Proofs.Text.Line
import Mathlib.Tactic.Lemma

/-! Lines that are read as commands have nothing but ASCII in them, and so do the bytes they were
decoded from, whatever bytes there may be. -/
namespace GridRobot.Command
open Decimal LetterCase

/-- No character is beyond ASCII. -/
def IsAscii (cs : List Char) : Prop := ∀ c ∈ cs, c.toNat < 0x80

instance (cs : List Char) : Decidable (IsAscii cs) :=
  List.decidableBAll (fun c : Char => c.toNat < 0x80) cs

lemma isAscii_append {cs ds : List Char} : IsAscii (cs ++ ds) ↔ IsAscii cs ∧ IsAscii ds :=
  List.forall_mem_append

lemma isAscii_cons {c : Char} {cs : List Char} :
    IsAscii (c :: cs) ↔ c.toNat < 0x80 ∧ IsAscii cs :=
  List.forall_mem_cons

/-- A text with the letters of an ASCII word is ASCII itself. -/
lemma isAscii_of_sameLetters {cs w : List Char} (letters : SameLetters cs w)
    (word : IsAscii (lower w)) : IsAscii cs := by
  intro c hc
  have lowered : c.toLower ∈ lower cs := List.mem_map_of_mem hc
  rw [show lower cs = lower w from letters] at lowered
  exact Lowered.ascii_of_toLower (word _ lowered)

lemma isAscii_of_isDigits {ds : List Char} (digits : IsDigits ds) : IsAscii ds := by
  intro c hc
  have most : c.toNat ≤ '9'.toNat := (digits.2 c hc).2
  exact Nat.lt_of_le_of_lt most (by decide)

lemma isAscii_of_spells {cs : List Char} {n : Numeral} (spelled : Spells cs n) : IsAscii cs := by
  cases spelled with
  | bare digits => exact isAscii_of_isDigits digits
  | plus digits | minus digits =>
    exact isAscii_cons.mpr ⟨by decide, isAscii_of_isDigits digits⟩

lemma isAscii_of_placeParameters {params : List Char} {x y : Int} {h : Heading}
    (placed : PlaceParameters params x y h) : IsAscii params := by
  obtain ⟨a, b, d, m, n, rfl, first, second, -, -, -, -, third⟩ := placed
  have comma : ','.toNat < 0x80 := by decide
  have word : IsAscii (lower h.name.toList) := by cases h <;> decide
  simp only [isAscii_append, isAscii_cons]
  exact ⟨isAscii_of_spells first, comma, isAscii_of_spells second, comma,
    isAscii_of_sameLetters third word⟩

/-- No other text has the letters of a keyword or of a placement. -/
theorem isAscii_of_ofLineChars {line : List Char} {k : Command}
    (read : ofLineChars line = .ok (.ok k)) : IsAscii line := by
  rcases ofLineChars_eq_ok_iff.mp read with ⟨w, word, letters⟩ | ⟨-, x, y, h, placed, -⟩
  · have ascii : IsAscii (lower w.toList) := by cases word <;> decide
    exact isAscii_of_sameLetters letters ascii
  · obtain ⟨params, ⟨start, rfl, letters⟩, parameters⟩ := placed
    exact isAscii_append.mpr
      ⟨isAscii_of_sameLetters letters (by decide), isAscii_of_placeParameters parameters⟩

/-- A chunk that is read as a command is ASCII from end to end: the line as it stands, with nothing
or the end of a line after it. -/
theorem chunk_ascii_of_ofLine (chunk : List UInt8) (k : Command)
    (read : ofLine (Line.ofChunk chunk) = .ok (.ok k)) :
    (∀ b ∈ chunk, b.toNat < 0x80) ∧
      ∃ e ∈ Line.ends, chunk = Line.asciiBytes (Line.ofChunk chunk) ++ e := by
  obtain ⟨ascii, same⟩ := Line.unterminated_of_ascii (isAscii_of_ofLineChars read)
  obtain ⟨e, he, whole⟩ := Line.exists_end chunk
  have plain : ∀ e ∈ Line.ends, ∀ b ∈ e, b.toNat < 0x80 := by
    simp [Line.ends, Line.newline, Line.carriageReturn]
  refine ⟨fun b hb => ?_, e, he, ?_⟩
  · rw [whole, List.mem_append] at hb
    exact hb.elim (ascii b) (plain e he b)
  · rw [← same]
    exact whole

/-- A placement in mixed case whose line ends in a carriage return and a newline. -/
theorem chunk_ascii_of_ofLine_placement :
    let chunk := Utf8.encode "pLace 1,-2,eAst\r\n".toList
    ofLine (Line.ofChunk chunk) = .ok (.ok (.place ⟨1, -2⟩ .east)) ∧
      (∀ b ∈ chunk, b.toNat < 0x80) ∧
        ∃ e ∈ Line.ends, chunk = Line.asciiBytes (Line.ofChunk chunk) ++ e := by
  intro chunk
  have read : ofLine (Line.ofChunk chunk) = .ok (.ok (.place ⟨1, -2⟩ .east)) := by decide +kernel
  exact ⟨read, chunk_ascii_of_ofLine chunk _ read⟩

end GridRobot.Command
