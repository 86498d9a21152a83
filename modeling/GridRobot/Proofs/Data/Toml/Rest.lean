import GridRobot.Data.Toml.Moment
import GridRobot.Data.Toml.Number
import GridRobot.Data.Toml.Text
import Mathlib.Data.List.Basic
import Mathlib.Tactic.Lemma

/-! Texts, moments and numbers are read from the front: what is left is an end of what there was, and
the digits of a number stand in what was taken. -/
namespace GridRobot.Toml

/-- If there is a result, what it leaves is an end of what was given. -/
def Leaves {β : Type} (rest : β → List Char) (cs : List Char) (o : Option β) : Prop :=
  ∀ b ∈ o, rest b <:+ cs

section Leaves

variable {β γ : Type} {rest : β → List Char} {rest' : γ → List Char} {cs r : List Char}

lemma leaves_none : Leaves rest cs none := fun _ h => absurd h (by simp)

lemma leaves_some {b : β} (h : rest b <:+ cs) : Leaves rest cs (some b) :=
  fun _ same => Option.some.inj same ▸ h

lemma Leaves.of_suffix {o : Option β} (h : Leaves rest r o) (ending : r <:+ cs) :
    Leaves rest cs o := fun b hb => (h b hb).trans ending

lemma Leaves.bind {o : Option β} {f : β → Option γ} (h : Leaves rest cs o)
    (next : ∀ b, Leaves rest' (rest b) (f b)) : Leaves rest' cs (o >>= f) := by
  intro c hc
  obtain ⟨b, hb, later⟩ := Option.bind_eq_some_iff.mp hc
  exact (next b c later).trans (h b hb)

lemma Leaves.map {o : Option β} {f : β → γ} (h : Leaves rest cs o)
    (kept : ∀ b, rest' (f b) <:+ rest b) : Leaves rest' cs (o.map f) := by
  intro c hc
  obtain ⟨b, hb, rfl⟩ := Option.map_eq_some_iff.mp hc
  exact (kept b).trans (h b hb)

end Leaves

section Texts

variable (multiline : Bool) (cs : List Char)

lemma skipSpace_suffix : skipSpace cs <:+ cs := List.dropWhile_suffix _

lemma leaves_readScalar (count : Nat) : Leaves Prod.snd cs (readScalar count cs) := by
  unfold readScalar
  dsimp only
  split
  · exact leaves_some (List.drop_suffix _ _)
  · exact leaves_none

lemma leaves_readEscape : Leaves Prod.snd cs (readEscape multiline cs) := by
  have scalar (count : Nat) (c : Char) (r : List Char) : Leaves Prod.snd (c :: r)
      ((readScalar count r).map fun p => ([p.1], p.2)) := by
    refine Leaves.of_suffix ?_ (List.suffix_cons c r)
    exact (leaves_readScalar r count).map fun p => List.suffix_refl p.2
  unfold readEscape
  split
  · exact scalar 4 _ _
  · exact scalar 8 _ _
  · rename_i c r _ _
    split
    · split
      · rename_i q blank
        have broken : '\n' :: q <:+ c :: r := blank ▸ skipSpace_suffix (c :: r)
        exact leaves_some <|
          (List.dropWhile_suffix _).trans ((List.suffix_cons _ _).trans broken)
      · exact leaves_none
    · intro p hp
      obtain ⟨e, -, rfl⟩ := Option.map_eq_some_iff.mp hp
      exact List.suffix_cons _ _
  · exact leaves_none

lemma leaves_readBasic (n : Nat) : Leaves Prod.snd cs (readBasic multiline n cs) := by
  have more (e cs : List Char) (n : Nat) (ih : ∀ cs, Leaves Prod.snd cs (readBasic multiline n cs)) :
      Leaves Prod.snd cs (readBasic multiline n cs >>= fun p => some (e ++ p.1, p.2)) :=
    (ih cs).bind fun p => leaves_some (List.suffix_refl p.2)
  induction n generalizing cs with
  | zero => exact leaves_none
  | succ n ih =>
    unfold readBasic
    split
    · exact leaves_none
    · rename_i r
      split
      · split
        · rename_i q
          exact leaves_some (List.suffix_append ['"', '"', '"'] q)
        · exact (more ['"'] r n ih).of_suffix (List.suffix_cons _ _)
      · exact leaves_some (List.suffix_cons _ _)
    · rename_i r
      refine Leaves.of_suffix ?_ (List.suffix_cons '\\' r)
      exact (leaves_readEscape multiline r).bind fun p => more p.1 p.2 n ih
    · rename_i c r _ _
      split
      · exact leaves_none
      · exact (more [c] r n ih).of_suffix (List.suffix_cons _ _)

lemma leaves_readLiteral : Leaves Prod.snd cs (readLiteral multiline cs) := by
  have more (e r : List Char) (ih : Leaves Prod.snd r (readLiteral multiline r)) :
      Leaves Prod.snd r (readLiteral multiline r >>= fun p => some (e ++ p.1, p.2)) :=
    ih.bind fun p => leaves_some (List.suffix_refl p.2)
  fun_induction readLiteral multiline cs with
  | case1 => exact leaves_none
  | case2 several q => exact leaves_some (List.suffix_append ['\'', '\'', '\''] q)
  | case3 r several unclosed ih => exact (more ['\''] r ih).of_suffix (List.suffix_cons _ _)
  | case4 r single => exact leaves_some (List.suffix_cons _ _)
  | case5 c r plain illegal => exact leaves_none
  | case6 c r plain legal ih => exact (more [c] r ih).of_suffix (List.suffix_cons _ _)

lemma dropNewline_suffix : dropNewline cs <:+ cs := by
  unfold dropNewline
  split
  · exact List.suffix_cons _ _
  · exact List.suffix_refl _

lemma absorbQuotes_suffix (quote : Char) (t : List Char) : (absorbQuotes quote t cs).2 <:+ cs := by
  unfold absorbQuotes
  split
  · rename_i a b r
    split
    · split
      · exact List.suffix_append [a, b] r
      · exact List.suffix_cons _ _
    · exact List.suffix_refl _
  · split
    · exact List.nil_suffix
    · exact List.suffix_refl _
  · exact List.nil_suffix

lemma leaves_readLineText : Leaves Prod.snd cs (readLineText cs) := by
  unfold readLineText
  split
  · exact (leaves_readBasic false _ _).of_suffix (List.suffix_cons _ _)
  · exact (leaves_readLiteral false _).of_suffix (List.suffix_cons _ _)
  · exact leaves_none

lemma leaves_readText : Leaves Prod.snd cs (readText cs) := by
  unfold readText
  split
  · rename_i r
    refine Leaves.of_suffix ?_ ((dropNewline_suffix r).trans (List.suffix_append ['"', '"', '"'] r))
    exact (leaves_readBasic true _ _).bind fun p => leaves_some (absorbQuotes_suffix p.2 _ p.1)
  · rename_i r
    refine Leaves.of_suffix ?_
      ((dropNewline_suffix r).trans (List.suffix_append ['\'', '\'', '\''] r))
    exact (leaves_readLiteral true _).bind fun p => leaves_some (absorbQuotes_suffix p.2 _ p.1)
  · exact leaves_readLineText cs

end Texts

section Moments

variable (cs : List Char)

lemma leaves_readFixed (count : Nat) : Leaves Prod.snd cs (readFixed count cs) := by
  unfold readFixed
  dsimp only
  split
  · exact leaves_some (List.drop_suffix _ _)
  · exact leaves_none

lemma leaves_readPair (least most : Nat) : Leaves Prod.snd cs (readPair least most cs) := by
  have pair := leaves_readFixed cs 2
  unfold readPair
  split
  · rename_i read
    split
    · exact leaves_some (pair _ read)
    · exact leaves_none
  · exact leaves_none

lemma leaves_expect (c : Char) : Leaves id cs (expect c cs) := by
  unfold expect
  split
  · split
    · exact leaves_some (List.suffix_cons _ _)
    · exact leaves_none
  · exact leaves_none

lemma readMicros_suffix : (readMicros cs).2 <:+ cs := by
  unfold readMicros
  split
  · split
    · exact List.suffix_refl _
    · exact (List.dropWhile_suffix _).trans (List.suffix_cons _ _)
  · exact List.suffix_refl _

lemma leaves_readTime : Leaves Prod.snd cs (readTime cs) :=
  (leaves_readPair _ 0 23).bind fun p =>
    (leaves_expect p.2 ':').bind fun r =>
      (leaves_readPair r 0 59).bind fun p =>
        (leaves_expect p.2 ':').bind fun r =>
          (leaves_readPair r 0 59).bind fun p => leaves_some (readMicros_suffix p.2)

lemma leaves_readDate : Leaves Prod.snd cs (readDate cs) :=
  (leaves_readFixed _ 4).bind fun p =>
    (leaves_expect p.2 '-').bind fun r =>
      (leaves_readPair r 1 12).bind fun p =>
        (leaves_expect p.2 '-').bind fun r =>
          (leaves_readPair r 1 31).bind fun p => leaves_some (List.suffix_refl p.2)

lemma leaves_readOffset (negative : Bool) : Leaves Prod.snd cs (readOffset negative cs) :=
  (leaves_readPair _ 0 23).bind fun p =>
    (leaves_expect p.2 ':').bind fun r =>
      (leaves_readPair r 0 59).bind fun p => leaves_some (List.suffix_refl p.2)

lemma readZone_suffix : (readZone cs).2 <:+ cs := by
  unfold readZone
  split
  · rename_i c r
    split
    · exact List.suffix_cons _ _
    · split
      · split
        · rename_i read
          exact (leaves_readOffset r _ _ read).trans (List.suffix_cons _ _)
        · exact List.suffix_refl _
      · exact List.suffix_refl _
  · exact List.suffix_refl _

lemma leaves_readTimePart : Leaves Prod.snd cs (readTimePart cs) := by
  unfold readTimePart
  split
  · rename_i c r
    split
    · refine Leaves.of_suffix ?_ (List.suffix_cons c r)
      exact (leaves_readTime r).map fun p => readZone_suffix p.2
    · exact leaves_none
  · exact leaves_none

lemma leaves_readMoment? : Leaves Prod.snd cs (readMoment? cs) := by
  unfold readMoment?
  split
  · rename_i d r read
    have date := leaves_readDate cs _ read
    dsimp only
    split
    · rename_i later
      exact leaves_some ((leaves_readTimePart r _ later).trans date)
    · exact leaves_some date
  · exact (leaves_readTime cs).map fun p => List.suffix_refl p.2

end Moments

section Numbers

/-- Digits that were read one after another, with underscores between them. -/
structure Run (isDigit : Char → Bool) (cs digits rest : List Char) : Prop where
  taken : ∃ run, cs = run ++ rest ∧ digits = run.filter isDigit ∧
    ∀ c ∈ run, isDigit c = true ∨ c = '_'

variable {isDigit : Char → Bool} {cs digits rest : List Char} {c : Char}

lemma Run.suffix (h : Run isDigit cs digits rest) : rest <:+ cs := by
  obtain ⟨run, same, -⟩ := h.taken
  exact ⟨run, same.symm⟩

lemma Run.nil (cs : List Char) : Run isDigit cs [] cs :=
  ⟨[], rfl, rfl, fun _ h => absurd h List.not_mem_nil⟩

lemma Run.digit (h : Run isDigit cs digits rest) (digit : isDigit c = true) :
    Run isDigit (c :: cs) (c :: digits) rest := by
  obtain ⟨run, rfl, rfl, only⟩ := h.taken
  refine ⟨c :: run, rfl, (List.filter_cons_of_pos digit).symm, fun d hd => ?_⟩
  rcases List.mem_cons.mp hd with rfl | later
  · exact .inl digit
  · exact only d later

lemma Run.underscore (h : Run isDigit cs digits rest) (no : isDigit '_' = false) :
    Run isDigit ('_' :: cs) digits rest := by
  obtain ⟨run, rfl, rfl, only⟩ := h.taken
  refine ⟨'_' :: run, rfl, (List.filter_cons_of_neg (by simp [no])).symm, fun d hd => ?_⟩
  rcases List.mem_cons.mp hd with rfl | later
  · exact .inr rfl
  · exact only d later

lemma run_moreDigits (no : isDigit '_' = false) (cs : List Char) :
    Run isDigit cs (moreDigits isDigit cs).1 (moreDigits isDigit cs).2 := by
  fun_induction moreDigits isDigit cs with
  | case1 c r digit ds q read ih =>
    rw [read] at ih
    exact (ih.digit digit).underscore no
  | case2 c r other => exact .nil _
  | case3 c r distinct digit ds q read ih =>
    rw [read] at ih
    exact ih.digit digit
  | case4 c r distinct other => exact .nil _
  | case5 => exact .nil _

lemma run_readDigits (no : isDigit '_' = false) {p : List Char × List Char}
    (read : readDigits isDigit cs = some p) : Run isDigit cs p.1 p.2 := by
  unfold readDigits at read
  split at read
  · split at read
    · rename_i digit
      obtain rfl := Option.some.inj read
      exact (run_moreDigits no _).digit digit
    · cases read
  · cases read

lemma leaves_readDigits (no : isDigit '_' = false) (cs : List Char) :
    Leaves Prod.snd cs (readDigits isDigit cs) :=
  fun _ read => (run_readDigits no read).suffix

lemma leaves_readBased (cs : List Char) : Leaves Prod.snd cs (readBased cs) := by
  have inner {isDigit : Char → Bool} (no : isDigit '_' = false) (value : List Char → Nat)
      (a b : Char) (r : List Char) :
      Leaves Prod.snd (a :: b :: r)
        ((readDigits isDigit r).map fun p => (value p.1, p.2)) := by
    refine Leaves.of_suffix ?_ ((List.suffix_cons b r).trans (List.suffix_cons a _))
    exact (leaves_readDigits no r).map fun p => List.suffix_refl p.2
  unfold readBased
  split
  · exact inner (by decide) Hexadecimal.natValue _ _ _
  · exact inner (by decide) (Nat.ofDigitChars 8 · 0) _ _ _
  · exact inner (by decide) (Nat.ofDigitChars 2 · 0) _ _ _
  · exact leaves_none

lemma readSign_suffix (cs : List Char) : (readSign cs).2 <:+ cs := by
  unfold readSign
  split
  · exact List.suffix_cons _ _
  · exact List.suffix_cons _ _
  · exact List.suffix_refl _

lemma run_readWhole {p : List Char × List Char} (read : readWhole cs = some p) :
    Run Char.isDigit cs p.1 p.2 := by
  unfold readWhole at read
  split at read
  · obtain rfl := Option.some.inj read
    exact (Run.nil _).digit (by decide)
  · exact run_readDigits (by decide) read

lemma readFraction_suffix (cs : List Char) : (readFraction cs).2 <:+ cs := by
  unfold readFraction
  split
  · rename_i r
    have digits : Leaves Prod.snd r (readDigits Char.isDigit r) := leaves_readDigits (by decide) r
    cases read : readDigits Char.isDigit r with
    | none => exact List.suffix_refl _
    | some p => exact (digits p read).trans (List.suffix_cons _ _)
  · exact List.suffix_refl _

lemma readExponent_suffix (cs : List Char) : (readExponent cs).2 <:+ cs := by
  unfold readExponent
  split
  · rename_i c r
    split
    · have sign := (readSign_suffix r).trans (List.suffix_cons c r)
      have digits : Leaves Prod.snd (readSign r).2 (readDigits Char.isDigit (readSign r).2) :=
        leaves_readDigits (by decide) _
      dsimp only
      split
      · rename_i read
        exact (digits _ read).trans sign
      · exact List.suffix_refl _
    · exact List.suffix_refl _
  · exact List.suffix_refl _

/-- Somewhere more digits stand one after another than are converted to a number; an underscore between
them does not end them. -/
def HasOverlongRun (cs : List Char) : Prop :=
  ∃ run, run <:+: cs ∧ (∀ c ∈ run, c.isDigit = true ∨ c = '_') ∧
    Decimal.digitLimit < (run.filter Char.isDigit).length

lemma HasOverlongRun.of_suffix {r : List Char} (h : HasOverlongRun r) (ending : r <:+ cs) :
    HasOverlongRun cs := by
  obtain ⟨run, inside, only, long⟩ := h
  exact ⟨run, inside.trans ending.isInfix, only, long⟩

lemma Run.hasOverlongRun (h : Run Char.isDigit cs digits rest)
    (long : Decimal.digitLimit < digits.length) : HasOverlongRun cs := by
  obtain ⟨run, rfl, rfl, only⟩ := h.taken
  exact ⟨run, (List.prefix_append _ _).isInfix, only, long⟩

lemma convert_eq_error {n : Decimal.Numeral} {e : OverlongNumeral} (h : n.convert = .error e) :
    Decimal.digitLimit < n.digits.length := by
  unfold Decimal.Numeral.convert at h
  split at h
  · rename_i long
    simpa [Decimal.Numeral.tooLong] using long
  · cases h

/-- What becomes of a number: it leaves an end of the text, or it has too many digits. -/
def Numbered (cs : List Char) : Except OverlongNumeral (Data × List Char) → Prop
  | .ok p => p.2 <:+ cs
  | .error _ => HasOverlongRun cs

lemma numbered_readDecimal? {x : Except OverlongNumeral (Data × List Char)}
    (read : readDecimal? cs = some x) : Numbered cs x := by
  have sign := readSign_suffix cs
  unfold readDecimal? at read
  generalize readSign cs = signed at sign read
  obtain ⟨⟨whole, r⟩, taken, read⟩ := Option.bind_eq_some_iff.mp read
  have run := run_readWhole taken
  have rest : (readExponent (readFraction r).2).2 <:+ cs :=
    (readExponent_suffix _).trans ((readFraction_suffix r).trans (run.suffix.trans sign))
  dsimp only at read run
  split at read
  · obtain rfl := Option.some.inj read
    cases converted : Decimal.Numeral.convert ⟨signed.1, whole⟩ with
    | error e => exact (run.hasOverlongRun (convert_eq_error converted)).of_suffix sign
    | ok i => exact rest
  · obtain rfl := Option.some.inj read
    exact rest

lemma leaves_readSpecial? (cs : List Char) : Leaves Prod.snd cs (readSpecial? cs) := by
  have sign := readSign_suffix cs
  unfold readSpecial?
  generalize readSign cs = signed at sign
  obtain ⟨negative, r⟩ := signed
  dsimp only at sign ⊢
  have drop (word : List Char) (q : List Char) : q <:+ word ++ q := List.suffix_append _ _
  split
  · exact leaves_some ((drop ['i', 'n', 'f'] _).trans sign)
  · exact leaves_some ((drop ['n', 'a', 'n'] _).trans sign)
  · exact leaves_none

lemma numbered_readNumber? {x : Except OverlongNumeral (Data × List Char)}
    (read : readNumber? cs = some x) : Numbered cs x := by
  unfold readNumber? at read
  split at read
  · rename_i based
    obtain rfl := Option.some.inj read
    exact leaves_readBased cs _ based
  · split at read
    · rename_i decimal
      obtain rfl := Option.some.inj read
      exact numbered_readDecimal? decimal
    · obtain ⟨p, special, rfl⟩ := Option.map_eq_some_iff.mp read
      exact leaves_readSpecial? cs p special

end Numbers

end GridRobot.Toml
