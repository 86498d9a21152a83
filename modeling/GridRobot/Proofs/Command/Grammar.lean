import GridRobot.Command.Line
import GridRobot.Proofs.Text.Lowered
import GridRobot.Proofs.Text.Numeral
import Mathlib.Tactic.Lemma

/-! The grammar of lines, stated without the reader: the words that are commands, the parameters of a
placement and the numerals in them that are too long. The reader of one field goes by it. -/
namespace GridRobot.Command
open Decimal LetterCase

/-- The words that stand for a command by themselves. -/
inductive Keyword : String → Command → Prop
  | move : Keyword "move" .move
  | left : Keyword "left" (.rotate .left)
  | right : Keyword "right" (.rotate .right)
  | report : Keyword "report" .report
  | placeObject : Keyword "place_object" .placeObject
  | map : Keyword "map" .map

/-- A text in three fields with commas between them. -/
def InThree (cs a b d : List Char) : Prop :=
  cs = a ++ ',' :: (b ++ ',' :: d) ∧ ',' ∉ a ∧ ',' ∉ b ∧ ',' ∉ d

/-- Two numerals in range and the name of a heading in any case, separated by commas. -/
def PlaceParameters (params : List Char) (x y : Int) (h : Heading) : Prop :=
  ∃ a b d m n, params = a ++ ',' :: (b ++ ',' :: d) ∧ Spells a m ∧ Spells b n ∧
    m.value = x ∧ n.value = y ∧ InRange x ∧ InRange y ∧ SameLetters d h.name.toList

/-- Nothing in range takes more than five digits. -/
lemma natAbs_lt_of_inRange {i : Int} {n : Nat} (h : InRange i) (room : 5 ≤ n) :
    i.natAbs < 10 ^ n := by
  have bound : 10 ^ 5 ≤ 10 ^ n := Nat.pow_le_pow_right (by decide) room
  unfold InRange at h
  omega

/-- Three fields, and a numeral among the first two that has more digits than are converted. -/
def OverlongParameters (params : List Char) : Prop :=
  ∃ a b d n, InThree params a b d ∧ (Spells a n ∨ Spells b n) ∧ digitLimit < n.digits.length

/-- The text after the word for a placement and the space that ends it. -/
def AfterPlace (line params : List Char) : Prop :=
  ∃ start, line = start ++ params ∧ SameLetters start "place ".toList

def IsPlace (line : List Char) (x y : Int) (h : Heading) : Prop :=
  ∃ params, AfterPlace line params ∧ PlaceParameters params x y h

def IsOverlong (line : List Char) : Prop :=
  ∃ params, AfterPlace line params ∧ OverlongParameters params

section Fields

lemma fields_comma (r : List Char) : fields (',' :: r) = [] :: fields r := by
  simp [fields]

lemma fields_ne_nil (cs : List Char) : fields cs ≠ [] := by
  cases cs with
  | nil => simp [fields]
  | cons c r =>
    simp only [fields]
    split <;> simp

lemma fields_cons {c : Char} (hc : c ≠ ',') {r f : List Char} {fs : List (List Char)}
    (hr : fields r = f :: fs) : fields (c :: r) = (c :: f) :: fs := by
  have h : (c == ',') = false := by simpa using hc
  simp [fields, h, hr]

lemma fields_of_not_mem {a : List Char} (h : ',' ∉ a) : fields a = [a] := by
  induction a with
  | nil => rfl
  | cons c r ih =>
    have hc : c ≠ ',' := fun e => h (by simp [e])
    exact fields_cons hc (ih (fun hr => h (by simp [hr])))

lemma fields_append_comma {a : List Char} (h : ',' ∉ a) (r : List Char) :
    fields (a ++ ',' :: r) = a :: fields r := by
  induction a with
  | nil => exact fields_comma r
  | cons c q ih =>
    have hc : c ≠ ',' := fun e => h (by simp [e])
    exact fields_cons hc (ih (fun hq => h (by simp [hq])))

/-- The first field has no comma, and the others are the fields of what follows its comma. -/
lemma eq_of_fields_eq_cons {cs f : List Char} {fs : List (List Char)} (h : fields cs = f :: fs) :
    ',' ∉ f ∧ ((fs = [] ∧ cs = f) ∨ ∃ r, cs = f ++ ',' :: r ∧ fields r = fs) := by
  induction cs generalizing f with
  | nil =>
    obtain ⟨rfl, rfl⟩ := List.cons.inj h
    simp
  | cons c r ih =>
    by_cases hc : c = ','
    · subst c
      rw [fields_comma] at h
      obtain ⟨rfl, hr⟩ := List.cons.inj h
      exact ⟨by simp, .inr ⟨r, rfl, hr⟩⟩
    · obtain ⟨g, gs, hg⟩ := List.exists_cons_of_ne_nil (fields_ne_nil r)
      rw [fields_cons hc hg] at h
      obtain ⟨rfl, rfl⟩ := List.cons.inj h
      obtain ⟨absent, rest⟩ := ih hg
      refine ⟨by simp [absent, Ne.symm hc], ?_⟩
      rcases rest with ⟨last, rfl⟩ | ⟨q, rfl, hq⟩
      · exact .inl ⟨last, rfl⟩
      · exact .inr ⟨q, rfl, hq⟩

theorem fields_eq_three_iff {cs a b d : List Char} : fields cs = [a, b, d] ↔ InThree cs a b d := by
  constructor
  · intro h
    obtain ⟨ha, ⟨h', -⟩ | ⟨r, rfl, hr⟩⟩ := eq_of_fields_eq_cons h
    · cases h'
    obtain ⟨hb, ⟨h', -⟩ | ⟨q, rfl, hq⟩⟩ := eq_of_fields_eq_cons hr
    · cases h'
    obtain ⟨hd, ⟨-, rfl⟩ | ⟨p, -, hp⟩⟩ := eq_of_fields_eq_cons hq
    · exact ⟨rfl, ha, hb, hd⟩
    · exact absurd hp (fields_ne_nil p)
  · intro given
    obtain ⟨rfl, ha, hb, hd⟩ := given
    rw [fields_append_comma ha, fields_append_comma hb, fields_of_not_mem hd]

end Fields

section Coordinates

lemma convert_of_long {n : Numeral} (h : digitLimit < n.digits.length) :
    n.convert = .error ⟨n.digits.length⟩ := by
  simp [Numeral.convert, Numeral.tooLong, h]

lemma convert_of_short {n : Numeral} (h : ¬ digitLimit < n.digits.length) :
    n.convert = .ok n.value := by
  simp [Numeral.convert, Numeral.tooLong, h]

/-- A field that spells a numeral is converted or is too long; any other field is no coordinate. -/
lemma coordinate_cases (field : List Char) :
    (∃ n, Spells field n ∧ digitLimit < n.digits.length ∧
        coordinate field = .error ⟨n.digits.length⟩) ∨
      (∃ n, Spells field n ∧ ¬ digitLimit < n.digits.length ∧
        coordinate field = .ok (if InRange n.value then some n.value else none)) ∨
      (∀ n, ¬ Spells field n) ∧ coordinate field = .ok none := by
  unfold coordinate
  cases read : Numeral.ofChars? field with
  | none =>
    refine .inr (.inr ⟨fun n spelled => ?_, rfl⟩)
    rw [Numeral.ofChars?_eq_some_iff.mpr spelled] at read
    cases read
  | some n =>
    have spelled := Numeral.ofChars?_eq_some_iff.mp read
    by_cases h : digitLimit < n.digits.length
    · exact .inl ⟨n, spelled, h, by simp only [convert_of_long h]; rfl⟩
    · exact .inr (.inl ⟨n, spelled, h, by simp only [convert_of_short h]; rfl⟩)

theorem coordinate_eq_error_iff {field : List Char} :
    (∃ e, coordinate field = .error e) ↔ ∃ n, Spells field n ∧ digitLimit < n.digits.length := by
  rcases coordinate_cases field with ⟨n, spelled, long, h⟩ | ⟨n, spelled, short, h⟩ | ⟨none, h⟩
  · exact ⟨fun _ => ⟨n, spelled, long⟩, fun _ => ⟨_, h⟩⟩
  · rw [h]
    constructor
    · intro given
      obtain ⟨e, ⟨⟩⟩ := given
    · intro given
      obtain ⟨m, hm, long⟩ := given
      exact absurd (hm.unique spelled ▸ long) short
  · rw [h]
    constructor
    · intro given
      obtain ⟨e, ⟨⟩⟩ := given
    · intro given
      obtain ⟨m, hm, -⟩ := given
      exact absurd hm (none m)

theorem coordinate_eq_some_iff {field : List Char} {v : Int} :
    coordinate field = .ok (some v) ↔
      ∃ n, Spells field n ∧ ¬ digitLimit < n.digits.length ∧ n.value = v ∧ InRange v := by
  rcases coordinate_cases field with ⟨n, spelled, long, h⟩ | ⟨n, spelled, short, h⟩ | ⟨none, h⟩
  · rw [h]
    constructor
    · intro given
      cases given
    · intro given
      obtain ⟨m, hm, short, -⟩ := given
      exact absurd (hm.unique spelled ▸ long) short
  · rw [h]
    constructor
    · intro he
      by_cases inside : InRange n.value
      · rw [if_pos inside] at he
        cases he
        exact ⟨n, spelled, short, rfl, inside⟩
      · rw [if_neg inside] at he
        cases he
    · intro given
      obtain ⟨m, hm, -, rfl, inside⟩ := given
      rw [← hm.unique spelled, if_pos inside]
  · rw [h]
    constructor
    · intro given
      cases given
    · intro given
      obtain ⟨m, hm, -⟩ := given
      exact absurd hm (none m)

end Coordinates

/-- The names of headings are told apart whatever their case. -/
theorem headingOf?_eq_some_iff {field : List Char} {h : Heading} :
    headingOf? field = some h ↔ SameLetters field h.name.toList := by
  have plain : ∀ g : Heading, Lowered.PlainWord (lower g.name.toList) := by
    intro g
    cases g <;> decide
  have same (g : Heading) : (Lowered.ofChars g.name.toList == Lowered.ofChars field) = true ↔
      SameLetters field g.name.toList := by
    rw [beq_iff_eq, Lowered.ofChars_eq_ofChars_iff (plain g)]
  have distinct : ∀ g k : Heading, lower g.name.toList = lower k.name.toList → g = k := by
    intro g k
    cases g <;> cases k <;> decide
  have found_same {g : Heading} (found : headingOf? field = some g) :
      SameLetters field g.name.toList := by
    unfold headingOf? at found
    have hit := List.find?_some found
    exact (same g).mp hit
  constructor
  · exact found_same
  · intro letters
    cases found : headingOf? field with
    | none =>
      have unmatched := List.find?_eq_none.mp found h (Heading.mem_all h)
      exact absurd ((same h).mpr letters) unmatched
    | some g => rw [distinct g h ((found_same found).symm.trans letters)]

end GridRobot.Command
