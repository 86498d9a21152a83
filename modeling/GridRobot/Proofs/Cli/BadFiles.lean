import GridRobot.Cli
import GridRobot.Proofs.Data.Toml.Faults
import GridRobot.Proofs.Settings.Effective
import GridRobot.Proofs.Text.Utf8.Encoded

/-! Files that are no configuration: which are reported as such, and what keeps others from being
reported. -/
namespace GridRobot

open Schema (Reads)
open Decimal (Counting)

/-- A known section of a document is no table, or its check turns down one of its values. -/
inductive Config.Fails (counting : Counting) (document : Members) : Prop
  | noTable {s : String × List String} (known : s ∈ Environment.sections) {d : Data}
      (given : document.get? s.1 = some d) (other : ∀ ms, d ≠ .object ms) : Fails counting document
  | width (refused : (Leaf.width counting).Refused document) : Fails counting document
  | height (refused : (Leaf.height counting).Refused document) : Fails counting document
  | blank (refused : Leaf.blank.Refused document) : Fails counting document
  | obstacle (refused : Leaf.obstacle.Refused document) : Fails counting document

namespace Config

variable {counting : Counting} {document : Members}

lemma ofData_ne_ok_of_noTable (counting : Counting) {d : Data} (other : ∀ ms, d ≠ .object ms) :
    (∀ p, PartialSize.ofData counting d ≠ .ok p) ∧ ∀ p, PartialGlyphs.ofData d ≠ .ok p := by
  cases d with
  | object ms => exact absurd rfl (other ms)
  | _ => exact ⟨nofun, nofun⟩

lemma not_fails_of_valid {c : Config} (valid : ofData counting (.object document) = .ok c) :
    ¬ Fails counting document := by
  obtain ⟨width, height, blank, obstacle⟩ := carried_of_valid valid
  intro fails
  cases fails with
  | @noTable s known d given other =>
    obtain ⟨size, glyphs⟩ := ofData_object_eq_ok_iff.mp valid
    simp only [Environment.sections, List.mem_cons, List.not_mem_nil, or_false] at known
    rcases known with rfl | rfl
    · rw [given] at size
      obtain ⟨p, -, checked⟩ := size.of_some
      exact (ofData_ne_ok_of_noTable counting other).1 p checked
    · rw [given] at glyphs
      obtain ⟨p, -, checked⟩ := glyphs.of_some
      exact (ofData_ne_ok_of_noTable counting other).2 p checked
  | width refused => exact Settings.not_refused width refused
  | height refused => exact Settings.not_refused height refused
  | blank refused => exact Settings.not_refused blank refused
  | obstacle refused => exact Settings.not_refused obstacle refused

lemma exists_reads_leaf {α : Type} {l : Leaf α} (free : ¬ l.Refused document) :
    ∃ o, Reads l.check (l.find? document) o := by
  refine Schema.exists_reads fun d given => ?_
  by_contra none
  exact free ⟨d, given, fun a same => none ⟨a, same⟩⟩

/-- A section that is no table is all that can go wrong beside its values. -/
lemma get?_of_not_fails (sound : ¬ Fails counting document) {s : String × List String}
    (known : s ∈ Environment.sections) :
    document.get? s.1 = none ∨ ∃ ms : Members, document.get? s.1 = some (.object ms) := by
  cases given : document.get? s.1 with
  | none => exact .inl rfl
  | some d =>
    by_contra other
    exact sound (.noTable known given fun ms same => other (.inr ⟨ms, same ▸ rfl⟩))

theorem valid_of_not_fails (sound : ¬ Fails counting document) :
    ∃ c, ofData counting (.object document) = .ok c := by
  obtain ⟨w, width⟩ := exists_reads_leaf (mt Fails.width sound)
  obtain ⟨h, height⟩ := exists_reads_leaf (mt Fails.height sound)
  obtain ⟨b, blank⟩ := exists_reads_leaf (mt Fails.blank sound)
  obtain ⟨o, obstacle⟩ := exists_reads_leaf (mt Fails.obstacle sound)
  have board : ("board", ["width", "height"]) ∈ Environment.sections := by decide
  have map : ("map", ["empty", "obstacle"]) ∈ Environment.sections := by decide
  obtain ⟨size, readsS⟩ : ∃ o, Reads (PartialSize.ofData counting) (document.get? "board") o := by
    obtain absent | ⟨ms, given⟩ := get?_of_not_fails sound board
    · exact ⟨none, absent ▸ .none⟩
    · simp only [Leaf.find?, Leaf.width, Leaf.height, given] at width height
      exact ⟨some ⟨w, h⟩, given ▸ .some (PartialSize.ofData_object_eq_ok_iff.mpr ⟨width, height⟩)⟩
  obtain ⟨glyphs, readsG⟩ : ∃ o, Reads PartialGlyphs.ofData (document.get? "map") o := by
    obtain absent | ⟨ms, given⟩ := get?_of_not_fails sound map
    · exact ⟨none, absent ▸ .none⟩
    · simp only [Leaf.find?, Leaf.blank, Leaf.obstacle, given] at blank obstacle
      exact ⟨some ⟨b, o⟩, given ▸ .some (PartialGlyphs.ofData_object_eq_ok_iff.mpr ⟨blank, obstacle⟩)⟩
  exact ⟨⟨size, glyphs⟩, ofData_object_eq_ok_iff.mpr ⟨readsS, readsG⟩⟩

end Config

namespace Cli

/-- A file is a configuration, with sizes of at least one and glyphs of one character. -/
def Loads (l : Limits) (t : FileTree) (p : FilePath) : Prop :=
  ∃ c, Config.load l t (some p) = .ok c ∧ ∃ (width height : Int) (blank obstacle : Char),
    1 ≤ width ∧ 1 ≤ height ∧
    c.toData = .object [
      ("board", .object [("width", .int width), ("height", .int height)]),
      ("map", .object [("empty", .text (String.singleton blank)),
        ("obstacle", .text (String.singleton obstacle))])]

/-- A file is no configuration, and the program ends with a message that says so. -/
def Reports (l : Limits) (t : FileTree) (p : FilePath) (message : String) : Prop :=
  ∃ f, Config.load l t (some p) = .error f ∧
    unsettled (.config p f) = ⟨[.line .err ("Error: " ++ message)], .exit 1⟩

/-- A file is no configuration, and the program breaks down over it. -/
def Crashes (l : Limits) (t : FileTree) (p : FilePath) : Prop :=
  ∃ f, Config.load l t (some p) = .error f ∧
    unsettled (.config p f) = .crashed (.settings (.config p f))

variable {l : Limits} {t : FileTree} {p : FilePath} {bytes : List UInt8} {cs : List Char}
  {document : Members}

lemma load_of_encoded (content : t.read p = .ok (Utf8.encode cs)) :
    Config.load l t (some p) = (Config.ofChars l cs).mapError .unusable := by
  rw [Config.load, content]
  simp only [Config.ofBytes, Utf8.decodeChecked_eq_ok_iff.mpr rfl]

lemma crashes_of_undecodable (content : t.read p = .ok bytes)
    (other : ∀ cs, bytes ≠ Utf8.encode cs) : Crashes l t p := by
  cases decoded : Utf8.decodeChecked bytes with
  | ok cs => exact absurd (Utf8.decodeChecked_eq_ok_iff.mp decoded) (other cs)
  | error e =>
    refine ⟨.unusable (.undecodable e), ?_, rfl⟩
    rw [Config.load, content]
    simp only [Config.ofBytes, decoded]
    rfl

lemma crashes_of_fault {f : Toml.Fault} (content : t.read p = .ok (Utf8.encode cs))
    (fails : Toml.ofChars l.toml cs = .error f) (unnamed : f ≠ .malformed) : Crashes l t p := by
  have loaded := load_of_encoded (l := l) content
  rw [Config.ofChars, fails] at loaded
  cases f with
  | malformed => exact absurd rfl unnamed
  | overlong e => exact ⟨_, loaded, rfl⟩
  | tooNested => exact ⟨_, loaded, rfl⟩

lemma reports_of_malformed (content : t.read p = .ok (Utf8.encode cs))
    (fails : Toml.ofChars l.toml cs = .error .malformed) :
    Reports l t p ("Invalid TOML in " ++ p.text) := by
  have loaded := load_of_encoded (l := l) content
  rw [Config.ofChars, fails] at loaded
  exact ⟨_, loaded, rfl⟩

lemma loads_of_sound (content : t.read p = .ok (Utf8.encode cs))
    (parsed : Toml.ofChars l.toml cs = .ok document) (sound : ¬ Config.Fails l.counting document) :
    Loads l t p := by
  have loaded := load_of_encoded (l := l) content
  obtain ⟨c, valid⟩ := Config.valid_of_not_fails sound
  rw [Config.ofChars, parsed] at loaded
  simp only [valid] at loaded
  exact ⟨c, loaded, _, _, _, _, c.boardSize.width.property, c.boardSize.height.property, rfl⟩

lemma reports_of_fails (content : t.read p = .ok (Utf8.encode cs))
    (parsed : Toml.ofChars l.toml cs = .ok document) (fails : Config.Fails l.counting document) :
    Reports l t p ("Invalid config in " ++ p.text) := by
  have loaded := load_of_encoded (l := l) content
  rw [Config.ofChars, parsed] at loaded
  cases valid : Config.ofData l.counting (.object document) with
  | ok c => exact absurd fails (Config.not_fails_of_valid valid)
  | error is =>
    simp only [valid] at loaded
    exact ⟨_, loaded, rfl⟩

/-- A file that is text and whose document can be read is a configuration, or what is wrong with it is
reported: that it is no document, or that a section or a value of it fails. What is not text ends in a
crash. So does text with more digits in a row than a number can have, and text that goes deeper at some
place than the stack has room for there, with no more calls open than the brackets and braces before
that place account for; nothing else does. -/
theorem bad_file_reported_if_readable (l : Limits) (content : t.read p = .ok bytes) :
    ((∀ cs, bytes ≠ Utf8.encode cs) → Crashes l t p) ∧
    ∀ cs, bytes = Utf8.encode cs →
      (∀ document, Toml.ofChars l.toml cs = .ok document →
        (¬ Config.Fails l.counting document → Loads l t p) ∧
          (Config.Fails l.counting document → Reports l t p ("Invalid config in " ++ p.text))) ∧
      (Toml.ofChars l.toml cs = .error .malformed →
        Reports l t p ("Invalid TOML in " ++ p.text)) ∧
      (∀ e, Toml.ofChars l.toml cs = .error (.overlong e) →
        Crashes l t p ∧ Toml.HasOverlongRun cs) ∧
      (Toml.ofChars l.toml cs = .error .tooNested →
        Crashes l t p ∧ ∃ calls r, r <:+ Line.unifyEnds cs ∧
          calls + Toml.weight r ≤ Toml.weight cs ∧ l.toml calls r = false) := by
  refine ⟨crashes_of_undecodable content, ?_⟩
  rintro cs rfl
  refine ⟨fun document parsed => ⟨loads_of_sound content parsed, reports_of_fails content parsed⟩,
    reports_of_malformed content, fun e fails => ?_, fun fails => ?_⟩
  · exact ⟨crashes_of_fault content fails nofun, Toml.hasOverlongRun_of_ofChars fails⟩
  · exact ⟨crashes_of_fault content fails nofun, Toml.full_of_ofChars fails⟩

theorem bad_file_reported_for_zero_width :
    let t : FileTree := .holding "[board]\nwidth = 0"
    t.read (Config.fileIn []) = .ok (Line.asciiBytes "[board]\nwidth = 0") ∧
      Reports .usual t (Config.fileIn []) "Invalid config in /toyrobot.toml" := by
  intro t
  have content : t.read (Config.fileIn []) = .ok (Line.asciiBytes "[board]\nwidth = 0") := rfl
  have text : Line.asciiBytes "[board]\nwidth = 0" = Utf8.encode "[board]\nwidth = 0".toList := by
    decide +kernel
  have parsed : Toml.ofChars Limits.usual.toml "[board]\nwidth = 0".toList =
      .ok [("board", .object [("width", .int 0)])] := by decide +kernel
  have refused : (Leaf.width .withoutSign).Refused [("board", .object [("width", .int 0)])] :=
    ⟨.int 0, rfl, fun a same => by cases same⟩
  exact ⟨content,
    (((bad_file_reported_if_readable .usual content).2 _ text).1 _ parsed).2 (.width refused)⟩

/-- A file of one byte that begins no character. -/
def undecodableSample : FileTree where
  entry?
    | [] => some .directory
    | ["toyrobot.toml"] => some (.file [0xff])
    | _ => none
  workingDirectory := []

theorem undecodable_file_crashes :
    undecodableSample.read (Config.fileIn []) = .ok [0xff] ∧
      ∀ l, Crashes l undecodableSample (Config.fileIn []) ∧
        ¬ Loads l undecodableSample (Config.fileIn []) ∧
          ∀ message, ¬ Reports l undecodableSample (Config.fileIn []) message := by
  refine ⟨rfl, fun l => ?_⟩
  have fails : Config.load l undecodableSample (some (Config.fileIn [])) =
      .error (.unusable (.undecodable ⟨.startByte, 0xff, 0, 1⟩)) := rfl
  refine ⟨⟨_, fails, rfl⟩, ?_, ?_⟩
  · rintro ⟨c, loaded, -⟩
    rw [fails] at loaded
    cases loaded
  · rintro message ⟨f, loaded, reported⟩
    rw [fails] at loaded
    cases loaded
    cases reported

end Cli
end GridRobot
