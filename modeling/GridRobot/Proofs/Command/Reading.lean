import GridRobot.Proofs.Command.Message
import GridRobot.Proofs.Command.Placement
import Mathlib.Tactic.Lemma

/-! The reader goes by the grammar on whole lines: each of its answers has its own kind of line, and it
has none only where a placement has a numeral that is too long. -/
namespace GridRobot.Command
open Decimal LetterCase

section Lines

variable {line params : List Char} {k : Command}

lemma keyword_iff_mem {w : String} : Keyword w k ↔ (w, k) ∈ keywords := by
  constructor
  · intro h
    cases h <;> decide
  · intro h
    simp only [keywords, List.mem_cons, Prod.mk.injEq, List.not_mem_nil, or_false] at h
    rcases h with ⟨rfl, rfl⟩ | ⟨rfl, rfl⟩ | ⟨rfl, rfl⟩ | ⟨rfl, rfl⟩ | ⟨rfl, rfl⟩ | ⟨rfl, rfl⟩
    · exact .move
    · exact .left
    · exact .right
    · exact .report
    · exact .placeObject
    · exact .map

/-- Keywords and the commands they stand for determine each other. -/
lemma Keyword.eq_iff {w w' : String} {k' : Command} (h : Keyword w k) (h' : Keyword w' k') :
    w = w' ↔ k = k' := by
  have all : ∀ e ∈ keywords, ∀ e' ∈ keywords, e.1 = e'.1 ↔ e.2 = e'.2 := by decide
  exact all _ (keyword_iff_mem.mp h) _ (keyword_iff_mem.mp h')

/-- To be lowered to a keyword is to be that keyword in some case. -/
lemma Keyword.lowered_iff {w : String} (h : Keyword w k) :
    w.toList = Lowered.ofChars line ↔ SameLetters line w.toList := by
  have plain : Lowered.PlainWord w.toList := by cases h <;> decide
  have low : lower w.toList = w.toList := by cases h <;> decide
  rw [eq_comm, Lowered.ofChars_eq_iff plain, SameLetters, low]

theorem ofKeyword?_eq_some_iff :
    ofKeyword? line = some k ↔ ∃ w, Keyword w k ∧ SameLetters line w.toList := by
  simp only [ofKeyword?, Option.map_eq_some_iff]
  constructor
  · intro h
    obtain ⟨⟨w, k⟩, found, rfl⟩ := h
    have word := keyword_iff_mem.mpr (List.mem_of_find?_eq_some found)
    have hit := List.find?_some found
    exact ⟨w, word, word.lowered_iff.mp (by simpa using hit)⟩
  · intro h
    obtain ⟨w, word, letters⟩ := h
    have lowered := word.lowered_iff.mpr letters
    cases found : keywords.find? (·.1.toList == Lowered.ofChars line) with
    | none =>
      have unmatched := List.find?_eq_none.mp found (w, k) (keyword_iff_mem.mp word)
      simp [lowered] at unmatched
    | some e =>
      have word' := keyword_iff_mem.mpr (List.mem_of_find?_eq_some found)
      have hit := List.find?_some found
      have same : e.1 = w := String.toList_injective (by simpa [← lowered] using hit)
      exact ⟨e, rfl, (word'.eq_iff word).mp same⟩

lemma ofKeyword?_eq_none_iff :
    ofKeyword? line = none ↔ ∀ w k, Keyword w k → ¬ SameLetters line w.toList := by
  rw [Option.eq_none_iff_forall_ne_some]
  constructor
  · intro none w k word letters
    exact none k (ofKeyword?_eq_some_iff.mpr ⟨w, word, letters⟩)
  · intro wordless k found
    obtain ⟨w, word, letters⟩ := ofKeyword?_eq_some_iff.mp found
    exact wordless w k word letters

/-- The word for a placement, in any case, stands in front of exactly one rest. -/
lemma afterPlace_iff : AfterPlace line params ↔
    Lowered.ofChars (line.take placeWord.length) = placeWord ∧
      params = line.drop placeWord.length := by
  have plain : Lowered.PlainWord placeWord := by decide
  have low : lower placeWord = placeWord := by decide
  rw [Lowered.ofChars_eq_iff plain]
  constructor
  · intro h
    obtain ⟨start, rfl, letters⟩ := h
    have same : lower start = placeWord := letters.trans low
    have length : start.length = placeWord.length := by simp [← same, lower]
    rw [← length, List.take_left, List.drop_left]
    exact ⟨same, rfl⟩
  · intro h
    obtain ⟨same, rfl⟩ := h
    exact ⟨_, (List.take_append_drop _ _).symm, same.trans low.symm⟩

lemma Keyword.not_afterPlace {w : String} (word : Keyword w k)
    (letters : SameLetters line w.toList) : ¬ AfterPlace line params := by
  intro h
  obtain ⟨start, rfl, same⟩ := h
  have joined : lower start ++ lower params = lower w.toList := by
    rw [← show lower (start ++ params) = lower w.toList from letters]
    simp [lower]
  rw [show lower start = lower "place ".toList from same] at joined
  cases word <;> simp [lower] at joined

lemma ofLineChars_of_keyword (word : ofKeyword? line = some k) :
    ofLineChars line = .ok (.ok k) := by
  simp only [ofLineChars, word]

lemma ofLineChars_of_afterPlace (after : AfterPlace line params) :
    ofLineChars line = ofPlaceParameters params := by
  have wordless : ofKeyword? line = none :=
    ofKeyword?_eq_none_iff.mpr fun _ _ word letters => word.not_afterPlace letters after
  obtain ⟨start, rfl⟩ := afterPlace_iff.mp after
  simp only [ofLineChars, wordless, if_pos start]

lemma ofLineChars_of_neither (wordless : ofKeyword? line = none)
    (after : ∀ params, ¬ AfterPlace line params) :
    ofLineChars line = .ok (.error (.unrecognised (String.ofList line))) := by
  simp only [ofLineChars, wordless]
  split
  · rename_i start
    exact absurd (afterPlace_iff.mpr ⟨start, rfl⟩) (after _)
  · rfl

lemma AfterPlace.unique {params' : List Char} (after : AfterPlace line params)
    (after' : AfterPlace line params') : params' = params := by
  rw [(afterPlace_iff.mp after).2, (afterPlace_iff.mp after').2]

/-- A line cannot be read exactly if a numeral in it is too long. -/
theorem ofLineChars_eq_error_iff :
    (∃ e, ofLineChars line = .error e) ↔ IsOverlong line := by
  constructor
  · intro given
    obtain ⟨e, he⟩ := given
    cases word : ofKeyword? line with
    | some k =>
      rw [ofLineChars_of_keyword word] at he
      cases he
    | none =>
      by_cases after : ∃ params, AfterPlace line params
      · obtain ⟨params, after⟩ := after
        refine ⟨params, after, ?_⟩
        rw [ofLineChars_of_afterPlace after] at he
        exact ofPlaceParameters_eq_error_iff.mp ⟨e, he⟩
      · rw [ofLineChars_of_neither word fun params h => after ⟨params, h⟩] at he
        cases he
  · intro given
    obtain ⟨params, after, long⟩ := given
    rw [ofLineChars_of_afterPlace after]
    exact ofPlaceParameters_of_overlong long

/-- A line is read as a command exactly if it is a keyword or a placement of convertible length. -/
theorem ofLineChars_eq_ok_iff :
    ofLineChars line = .ok (.ok k) ↔ (∃ w, Keyword w k ∧ SameLetters line w.toList) ∨
      ¬ IsOverlong line ∧ ∃ x y h, IsPlace line x y h ∧ k = .place ⟨x, y⟩ h := by
  constructor
  · intro read
    cases word : ofKeyword? line with
    | some k' =>
      rw [ofLineChars_of_keyword word] at read
      cases read
      exact .inl (ofKeyword?_eq_some_iff.mp word)
    | none =>
      by_cases after : ∃ params, AfterPlace line params
      · obtain ⟨params, after⟩ := after
        rw [ofLineChars_of_afterPlace after] at read
        obtain ⟨short, x, y, h, placed, rfl⟩ := ofPlaceParameters_eq_ok_iff.mp read
        refine .inr ⟨?_, x, y, h, ⟨params, after, placed⟩, rfl⟩
        intro given
        obtain ⟨params', after', long⟩ := given
        exact short (after.unique after' ▸ long)
      · rw [ofLineChars_of_neither word fun params h => after ⟨params, h⟩] at read
        cases read
  · intro given
    rcases given with word | ⟨short, x, y, h, ⟨params, after, placed⟩, rfl⟩
    · exact ofLineChars_of_keyword (ofKeyword?_eq_some_iff.mpr word)
    · rw [ofLineChars_of_afterPlace after]
      exact ofPlaceParameters_of_place (fun long => short ⟨params, after, long⟩) placed

/-- A line that is no command is at fault as a whole, or after the word for a placement. -/
theorem fault_of_ofLineChars {e : LineError} (read : ofLineChars line = .ok (.error e)) :
    e = .unrecognised (String.ofList line) ∨
      ∃ params, AfterPlace line params ∧ e = .badPlace (String.ofList params) := by
  cases word : ofKeyword? line with
  | some k => cases (ofLineChars_of_keyword word).symm.trans read
  | none =>
    by_cases after : ∃ params, AfterPlace line params
    · obtain ⟨params, after⟩ := after
      have parameters := (ofLineChars_of_afterPlace after).symm.trans read
      exact .inr ⟨params, after, badPlace_of_ofPlaceParameters parameters⟩
    · have neither := ofLineChars_of_neither word fun params h => after ⟨params, h⟩
      cases neither.symm.trans read
      exact .inl rfl

/-- A line is read as the command of a keyword exactly if it is that keyword in some case. -/
theorem Keyword.ofLineChars_iff {w : String} (word : Keyword w k) :
    ofLineChars line = .ok (.ok k) ↔ SameLetters line w.toList := by
  rw [ofLineChars_eq_ok_iff]
  constructor
  · intro given
    rcases given with ⟨w', word', letters⟩ | ⟨-, x, y, h, -, rfl⟩
    · rwa [(word.eq_iff word').mpr rfl]
    · cases word
  · exact fun letters => .inl ⟨w, word, letters⟩

/-- Only a line of more characters than there may be digits can be too long. -/
lemma not_isOverlong_of_length_le (h : line.length ≤ digitLimit) : ¬ IsOverlong line := by
  intro given
  obtain ⟨params, ⟨start, rfl, -⟩, a, b, d, n, ⟨rfl, -⟩, spelled, long⟩ := given
  have bound : n.digits.length ≤ a.length + b.length := by
    rcases spelled with first | second
    · exact Nat.le_add_right_of_le first.length_digits_le
    · exact Nat.le_add_left_of_le second.length_digits_le
  simp only [List.length_append, List.length_cons] at h
  omega

end Lines

/-- Every line without an overlong numeral is a keyword, a placement, or one of two errors that hold
the text at fault unchanged; nothing but the case of ASCII letters is ignored. -/
theorem ofLine_by_grammar (line : String) (short : ¬ IsOverlong line.toList) :
    (∀ w k, Keyword w k → (ofLine line = .ok (.ok k) ↔ SameLetters line.toList w.toList)) ∧
    (∀ x y h, ofLine line = .ok (.ok (.place ⟨x, y⟩ h)) ↔ IsPlace line.toList x y h) ∧
    ((∀ w k, Keyword w k → ¬ SameLetters line.toList w.toList) →
      (∀ x y h, ¬ IsPlace line.toList x y h) →
        (∀ params, AfterPlace line.toList params →
          ofLine line = .ok (.error (.badPlace (String.ofList params)))) ∧
        ((∀ params, ¬ AfterPlace line.toList params) →
          ofLine line = .ok (.error (.unrecognised line)))) ∧
    ∀ raw, (LineError.badPlace raw).message = "Bad PLACE parameters: " ++ raw ∧
      (LineError.unrecognised raw).message = "Unrecognised command: " ++ raw := by
  unfold ofLine
  refine ⟨?_, ?_, ?_, ?_⟩
  · intro w k word
    rw [ofLineChars_eq_ok_iff]
    constructor
    · intro given
      rcases given with ⟨w', word', letters⟩ | ⟨-, x, y, h, -, rfl⟩
      · rwa [(word.eq_iff word').mpr rfl]
      · cases word
    · exact fun letters => .inl ⟨w, word, letters⟩
  · intro x y h
    rw [ofLineChars_eq_ok_iff]
    constructor
    · intro given
      rcases given with ⟨w, word, -⟩ | ⟨-, x', y', h', placed, same⟩
      · cases word
      · cases same
        exact placed
    · exact fun placed => .inr ⟨short, x, y, h, placed, rfl⟩
  · intro wordless unplaced
    constructor
    · intro params after
      rw [ofLineChars_of_afterPlace after]
      refine ofPlaceParameters_of_no_place (fun long => short ⟨params, after, long⟩) ?_
      exact fun x y h placed => unplaced x y h ⟨params, after, placed⟩
    · intro after
      rw [ofLineChars_of_neither (ofKeyword?_eq_none_iff.mpr wordless) after, String.ofList_toList]
  · exact fun raw => ⟨message_badPlace raw, message_unrecognised raw⟩

/-- Case, leading zeros and a plus sign make no difference, and both ends of the range are in it. -/
theorem ofLine_by_grammar_mixed_case :
    ¬ IsOverlong "pLaCe -0032768,+32767,nOrTh".toList ∧
      ofLine "pLaCe -0032768,+32767,nOrTh" = .ok (.ok (.place ⟨-32768, 32767⟩ .north)) := by
  have short : ¬ IsOverlong "pLaCe -0032768,+32767,nOrTh".toList :=
    not_isOverlong_of_length_le (by decide)
  have first : Spells "-0032768".toList ⟨true, "0032768".toList⟩ :=
    Numeral.ofChars?_eq_some_iff.mp (by decide)
  have second : Spells "+32767".toList ⟨false, "32767".toList⟩ :=
    Numeral.ofChars?_eq_some_iff.mp (by decide)
  have placed : PlaceParameters "-0032768,+32767,nOrTh".toList (-32768) 32767 .north :=
    ⟨_, _, "nOrTh".toList, _, _, rfl, first, second, by decide, by decide, by decide, by decide,
      by decide⟩
  have after : AfterPlace "pLaCe -0032768,+32767,nOrTh".toList "-0032768,+32767,nOrTh".toList :=
    ⟨"pLaCe ".toList, rfl, by decide⟩
  exact ⟨short, ((ofLine_by_grammar _ short).2.1 _ _ _).mpr ⟨_, after, placed⟩⟩

end GridRobot.Command
