import GridRobot.Proofs.Data.Json.RoundTrip
import GridRobot.Proofs.Settings.Precedence
import GridRobot.Proofs.Text.Line
import Mathlib.Tactic.Lemma

/-! Effective settings: every value is that of the first source that sets its key, and a file with a
value that is not accepted is reported whatever the other sources say. -/
namespace GridRobot

open Environment (atop IsSection)
open Schema (Reads)

/-- What is used as configuration: nothing, or a file that holds a document. -/
inductive Config.Selects (limits : Limits) (t : FileTree) (e : Environment) (explicit : Option String)
    (start : Option FilePath) : Option FilePath → Members → Prop
  | nothing (selected : select t e explicit start = .ok none) :
    Selects limits t e explicit start none []
  | file {p : FilePath} {bytes : List UInt8} {cs : List Char} {document : Members}
      (selected : select t e explicit start = .ok (some p)) (content : t.read p = .ok bytes)
      (decoded : Utf8.decodeChecked bytes = .ok cs)
      (parsed : Toml.ofChars limits.toml cs = .ok document) :
      Selects limits t e explicit start (some p) document

/-- Files of which there is at most a configuration, in the root directory. -/
def FileTree.holding (content : Option String) : FileTree where
  entry?
    | [] => some .directory
    | ["toyrobot.toml"] => content.map fun s => .file (Line.asciiBytes s)
    | _ => none
  workingDirectory := []

lemma Config.selects_holding {limits : Limits} {content : String} {document : Members} {e : Environment}
    (found : e.get? variableName = none)
    (decoded : Utf8.decodeChecked (Line.asciiBytes content) = .ok content.toList)
    (parsed : Toml.ofChars limits.toml content.toList = .ok document) :
    Selects limits (.holding content) e none none (some (fileIn [])) document := by
  refine .file ?_ rfl decoded parsed
  rw [select, find, found]
  rfl

/-- A document has a value that its check turns down. -/
def Leaf.Refused {α : Type} (l : Leaf α) (document : Members) : Prop :=
  ∃ d ∈ l.find? document, ∀ a, l.check d ≠ .ok a

namespace Settings

variable {limits : Limits} {t : FileTree} {e : Environment} {explicit : Option String} {start : Option FilePath}
  {path : Option FilePath} {p : FilePath} {document vars flags : Members} {c : Config}

/-- The document is a valid configuration, flags for sections are objects, variables speak of sections
as they are meant to, and what decides a value is accepted. -/
structure Admissible (limits : Limits) (document : Members) (e : Environment) (flags : Members) :
    Prop where
  valid : ∃ c, Config.ofData limits.counting (.object document) = .ok c
  flagged : ∀ s ∈ Environment.sections, IsSection (flagged? flags s.1)
  speaks : ∀ s ∈ Environment.sections, e.Speaks limits s.1 s.2
  switches : ∀ name ∈ Environment.switches,
    ∀ d ∈ (flagged? flags name).or (e.single? name), ∃ b, Schema.bool d = .ok b
  width : (Leaf.width limits.counting).Acceptable limits document e flags
  height : (Leaf.height limits.counting).Acceptable limits document e flags
  blank : Leaf.blank.Acceptable limits document e flags
  obstacle : Leaf.obstacle.Acceptable limits document e flags

/-- A file that holds a document is loaded as what the document is checked to be. -/
lemma config_of_selects (selected : Config.Selects limits t e explicit start (some p) document) :
    Config.load limits t (some p) =
      (((Config.ofData limits.counting (.object document)).titled Config.recordName).mapError
        .rejected).mapError .unusable := by
  cases selected with
  | file _ content decoded parsed =>
    rw [Config.load, content]
    simp only [Config.ofBytes, decoded, Config.ofChars, parsed]

/-- What a valid document sets is put below the variables and the flags. -/
lemma load_of_valid (selected : Config.Selects limits t e explicit start path document)
    (valid : Config.ofData limits.counting (.object document) = .ok c)
    (read : e.settings limits = .ok vars) :
    load limits t e explicit start flags =
      ((ofMembers limits.counting path (merged c.overrides vars (ofFlags flags))).titled
        recordName).mapError .rejected := by
  cases path with
  | none =>
    cases selected with
    | nothing selected =>
      obtain rfl : Config.standard = c := Except.ok.inj valid
      rw [load, selected, read]
      rfl
  | some p =>
    have loaded : Config.load limits t (some p) = .ok c := by
      rw [config_of_selects selected, valid]
      rfl
    cases selected with
    | file selected =>
      rw [load, selected, read]
      -- The path is known only after the search, so the file's load is not yet in sight.
      change ((Config.load limits t (some p)).mapError (Fault.config p) >>= _) = _
      rw [loaded]
      rfl

/-- A document that is no configuration is reported before variables and flags are looked at. -/
lemma load_of_invalid {is : List Issue}
    (selected : Config.Selects limits t e explicit start (some p) document)
    (invalid : Config.ofData limits.counting (.object document) = .error is) :
    load limits t e explicit start flags =
      .error (.config p (.unusable (.rejected ⟨Config.recordName, is⟩))) := by
  have loaded := config_of_selects selected
  rw [invalid] at loaded
  cases selected with
  | file selected =>
    rw [load, selected]
    change ((Config.load limits t (some p)).mapError (Fault.config p) >>= _) = _
    rw [loaded]
    rfl

lemma not_refused {α : Type} {l : Leaf α} {overrides : Members}
    (carried : l.Carried document overrides) : ¬ l.Refused document := by
  rintro ⟨d, found, refused⟩
  obtain ⟨o, reads, -⟩ := carried
  rw [Option.mem_def.mp found] at reads
  obtain ⟨a, -, checked⟩ := reads.of_some
  exact refused a checked

/-- A value that its check turns down makes a document invalid. -/
lemma invalid_of_refused {counting : Decimal.Counting}
    (refused : (Leaf.width counting).Refused document ∨ (Leaf.height counting).Refused document ∨
      Leaf.blank.Refused document ∨ Leaf.obstacle.Refused document) :
    ∃ is, Config.ofData counting (.object document) = .error is := by
  cases checked : Config.ofData counting (.object document) with
  | error is => exact ⟨is, rfl⟩
  | ok c =>
    obtain ⟨width, height, blank, obstacle⟩ := Config.carried_of_valid checked
    rcases refused with h | h | h | h
    · exact absurd h (not_refused width)
    · exact absurd h (not_refused height)
    · exact absurd h (not_refused blank)
    · exact absurd h (not_refused obstacle)

namespace Admissible

variable (h : Admissible limits document e flags) (named : Named flags)
  (read : e.settings limits = .ok vars)

include h named read in
/-- A switch is decided by its flag or its variable; a file does not set it. -/
lemma exists_reads_switch (c : Config) {name : String}
    (hn : name ∈ Environment.switches) :
    ∃ b, Reads Schema.bool ((merged c.overrides vars (ofFlags flags)).get? name) b := by
  obtain ⟨vars', same, singles, -⟩ := Environment.settings_of_speaks h.speaks
  obtain rfl : vars = vars' := Except.ok.inj (read.symm.trans same)
  have known : name ∈ keys := (by decide : Environment.switches ⊆ keys) hn
  have apart : ∀ n ∈ Environment.switches, n ∉ ["board", "map"] := by decide
  have absent : c.overrides.get? name = none :=
    Members.get?_eq_none_iff.mpr fun given => apart name hn (names_overrides c name given)
  have plain (ms : Members) (b : Bool) : Schema.bool (.object ms) ≠ .ok b := nofun
  have accepted := h.switches name hn
  rw [get?_merged (Environment.nodup_settings read) (nodup_ofFlags named).1, absent,
    singles name hn, get?_ofFlags known, Environment.atop_of_accepted plain accepted]
  have above : atop none ((flagged? flags name).or (e.single? name)) =
      (flagged? flags name).or (e.single? name) := by
    cases (flagged? flags name).or (e.single? name) <;> rfl
  rw [above]
  exact Schema.exists_reads accepted

include h named read in
/-- What decides a value of a section is what is found for it in the end. -/
lemma exists_reads_leaf {α : Type} (l : Leaf α) {s : String × List String}
    (hs : s ∈ Environment.sections) (group : l.group = s.1)
    (acceptable : l.Acceptable limits document e flags) (carried : l.Carried document c.overrides) :
    IsSection ((merged c.overrides vars (ofFlags flags)).get? l.group) ∧
      ∃ o, Reads l.check (l.find? (merged c.overrides vars (ofFlags flags))) o ∧
        Reads l.check (l.deciding? limits document e flags) o := by
  obtain ⟨vars', same, -, sections⟩ := Environment.settings_of_speaks h.speaks
  obtain rfl : vars = vars' := Except.ok.inj (read.symm.trans same)
  obtain ⟨middle, keyed⟩ := sections s hs
  rw [← group] at middle keyed
  have known : l.group ∈ keys := by
    rw [group]
    exact (by decide : ∀ s ∈ Environment.sections, s.1 ∈ keys) s hs
  have high : (ofFlags flags).get? l.group = flagged? flags l.group := get?_ofFlags known flags
  have flagged : IsSection ((ofFlags flags).get? l.group) := by
    rw [high, group]
    exact h.flagged s hs
  have low : IsSection (c.overrides.get? l.group) := by
    rw [group]
    exact Config.isSection_overrides c s hs
  obtain ⟨whole, entry⟩ := find?_merged l (Environment.nodup_settings read) (nodup_ofFlags named).1
    low middle flagged
  have below : l.find? vars = _ := keyed l.key
  have flag : l.find? (ofFlags flags) = (flagged? flags l.group).bind (Data.under? l.key) := by
    rw [Leaf.find?, high]
  rw [below, flag] at entry
  rw [entry]
  exact ⟨whole, Leaf.exists_reads acceptable carried⟩

include h named read in
/-- Values that are decided one by one pass together. -/
theorem ofMembers_merged (path : Option FilePath)
    (valid : Config.ofData limits.counting (.object document) = .ok c) :
    ∃ s, ofMembers limits.counting path (merged c.overrides vars (ofFlags flags)) = .ok s ∧
      (Leaf.width limits.counting).Decided limits document e flags s.size.width ∧
      (Leaf.height limits.counting).Decided limits document e flags s.size.height ∧
      Leaf.blank.Decided limits document e flags s.glyphs.blank ∧
      Leaf.obstacle.Decided limits document e flags s.glyphs.obstacle := by
  obtain ⟨width, height, blank, obstacle⟩ := Config.carried_of_valid valid
  have board : ("board", ["width", "height"]) ∈ Environment.sections := by decide
  have map : ("map", ["empty", "obstacle"]) ∈ Environment.sections := by decide
  obtain ⟨size, w, readW, decidesW⟩ := h.exists_reads_leaf named read _ board rfl h.width width
  obtain ⟨-, ht, readH, decidesH⟩ := h.exists_reads_leaf named read _ board rfl h.height height
  obtain ⟨glyphs, b, readB, decidesB⟩ := h.exists_reads_leaf named read _ map rfl h.blank blank
  obtain ⟨-, o, readO, decidesO⟩ := h.exists_reads_leaf named read _ map rfl h.obstacle obstacle
  obtain ⟨s, checked, sameW, sameH, sameB, sameO⟩ := ofMembers_of_reads path
    (names_merged named read) (fun _ hn => h.exists_reads_switch named read c hn) size glyphs
    readW readH readB readO
  refine ⟨s, checked, ?_, ?_, ?_, ?_⟩
  · exact sameW ▸ Leaf.decided_of_reads decidesW
  · exact sameH ▸ Leaf.decided_of_reads decidesH
  · exact sameB ▸ Leaf.decided_of_reads decidesB
  · exact sameO ▸ Leaf.decided_of_reads decidesO

end Admissible

/-- Where flags, variables and the file are as they are meant to be, every value of a section is
decided on its own by the first source that sets its key, if all flags name settings; any other flag is
refused by its name. A file with a value that its check turns down is reported whatever the flags and
the variables are. -/
theorem load_decides_each_key (selected : Config.Selects limits t e explicit start path document) :
    (∀ flags, Admissible limits document e flags → Named flags →
      ∃ s, load limits t e explicit start flags = .ok s ∧
        (Leaf.width limits.counting).Decided limits document e flags s.size.width ∧
        (Leaf.height limits.counting).Decided limits document e flags s.size.height ∧
        Leaf.blank.Decided limits document e flags s.glyphs.blank ∧
        Leaf.obstacle.Decided limits document e flags s.glyphs.obstacle) ∧
    (∀ flags, Admissible limits document e flags → ∀ m ∈ flags, Environment.lower m.1 ∉ keys →
      ∃ r, load limits t e explicit start flags = .error (.rejected r) ∧
        ⟨[.key m.1], .unexpected⟩ ∈ r.issues) ∧
    ∀ p, path = some p →
      ((Leaf.width limits.counting).Refused document ∨
        (Leaf.height limits.counting).Refused document ∨
        Leaf.blank.Refused document ∨ Leaf.obstacle.Refused document) →
      ∀ flags, ∃ r,
        load limits t e explicit start flags = .error (.config p (.unusable (.rejected r))) := by
  refine ⟨fun flags h named => ?_, fun flags h m hm unknown => ?_, fun p used refused flags => ?_⟩
  · obtain ⟨c, valid⟩ := h.valid
    obtain ⟨vars, read, -⟩ := Environment.settings_of_speaks h.speaks
    obtain ⟨s, checked, decided⟩ := h.ofMembers_merged named read path valid
    refine ⟨s, ?_, decided⟩
    rw [load_of_valid selected valid read, checked]
    rfl
  · obtain ⟨c, valid⟩ := h.valid
    obtain ⟨vars, read, -⟩ := Environment.settings_of_speaks h.speaks
    have given : m.1 ∈ (merged c.overrides vars (ofFlags flags)).map Prod.fst :=
      Environment.mem_names_mergeInto.mpr <| .inr <| Environment.mem_names_mergeInto.mpr <| .inr <|
        List.mem_map_of_mem (mem_ofFlags unknown hm)
    have other : m.1 ∉ keys := fun hk => unknown ((lower_of_mem hk).symm ▸ hk)
    obtain ⟨is, refused, complaint⟩ := ofMembers_of_unknown path given other
    refine ⟨⟨recordName, is⟩, ?_, complaint⟩
    rw [load_of_valid selected valid read, refused]
    rfl
  · subst used
    obtain ⟨is, invalid⟩ := invalid_of_refused refused
    exact ⟨_, load_of_invalid selected invalid⟩

/-- JSON with a width that is too small and, for a key of no meaning, a lone surrogate. -/
def sampleBoard : String := "\x7b\"height\": 4, \"width\": 0, \"note\": \"\\ud800\"\x7d"

/-- A variable of its own for the width, beside the JSON. -/
def sampleVariables : Environment :=
  [("TOYROBOT_BOARD", sampleBoard), ("ToyRobot_Board__Width", "9")]

/-- A flag for one glyph, and for a key of no meaning. -/
def sampleFlags : Members := [("MAP", .object [("obstacle", .text "#"), ("shade", .int 1)])]

/-- Both sizes and the other glyph. -/
def sampleFile : String := "[board]\nwidth = 7\nheight = 3\n[map]\nempty = \".\"\nshade = 2"

def sampleDocument : Members :=
  [("board", .object [("width", .int 7), ("height", .int 3)]),
    ("map", .object [("empty", .text "."), ("shade", .int 2)])]

open Environment (namePrefix)

lemma value?_sample :
    sampleVariables.value? (namePrefix ++ "board") = some sampleBoard ∧
    sampleVariables.value? (namePrefix ++ "map") = none ∧
    sampleVariables.value? (namePrefix ++ "board" ++ "__" ++ "width") = some "9" ∧
    sampleVariables.value? (namePrefix ++ "board" ++ "__" ++ "height") = none ∧
    sampleVariables.value? (namePrefix ++ "map" ++ "__" ++ "empty") = none ∧
    ∀ name ∈ Environment.switches,
      sampleVariables.value? (namePrefix ++ name) = none := by
  decide +kernel

lemma ofText_sample : Json.ofText (Environment.dialect .usual) sampleBoard =
    .ok (.object [("height", .int 4), ("width", .int 0), ("note", .unpaired [0xd800])]) := by
  decide +kernel

lemma json?_sample : sampleVariables.json? .usual "board" =
    some (.object [("height", .int 4), ("width", .int 0), ("note", .unpaired [0xd800])]) := by
  rw [Environment.json?, value?_sample.1, Option.bind_some, ofText_sample]
  rfl

lemma flagged?_sample :
    flagged? sampleFlags "map" = some (.object [("obstacle", .text "#"), ("shade", .int 1)]) ∧
    flagged? sampleFlags "board" = none ∧
    ∀ name ∈ Environment.switches, flagged? sampleFlags name = none := by
  have low : Environment.lower "MAP" = "map" := by decide +kernel
  simp [flagged?, sampleFlags, low, Environment.switches]

lemma deciding?_sample :
    (Leaf.width .withoutSign).deciding? .usual sampleDocument sampleVariables sampleFlags =
      some (.text "9") ∧
    (Leaf.height .withoutSign).deciding? .usual sampleDocument sampleVariables sampleFlags =
      some (.int 4) ∧
    Leaf.blank.deciding? .usual sampleDocument sampleVariables sampleFlags = some (.text ".") ∧
    Leaf.obstacle.deciding? .usual sampleDocument sampleVariables sampleFlags = some (.text "#") := by
  obtain ⟨-, map, width, height, blank, -⟩ := value?_sample
  obtain ⟨drawn, board, -⟩ := flagged?_sample
  refine ⟨?_, ?_, ?_, ?_⟩
  · simp [Leaf.deciding?_eq, Leaf.width, board, Environment.own?, width]
  · simp [Leaf.deciding?_eq, Leaf.height, Leaf.width, board, Environment.own?, height, json?_sample,
      Data.under?, Members.get?]
  · simp [Leaf.deciding?_eq, Leaf.blank, drawn, Environment.own?, blank, Environment.json?, map,
      Data.under?, Members.get?, Leaf.find?, sampleDocument]
  · simp [Leaf.deciding?_eq, Leaf.obstacle, Leaf.blank, drawn, Data.under?, Members.get?]

lemma speaks_sample : ∀ s ∈ Environment.sections, sampleVariables.Speaks .usual s.1 s.2 := by
  have own : ∀ s ∈ Environment.sections, ∀ v ∈ sampleVariables,
      ∀ rest ∈ Environment.after? (namePrefix ++ s.1 ++ "__") (Environment.lower v.1),
        String.ofList rest ∈ s.2 := by decide +kernel
  have small : ∀ name ∈ ["height", "width", "note"], Environment.lower name = name := by
    decide +kernel
  intro s hs
  refine ⟨fun text given => ?_, fun v hv key same => ?_⟩
  · simp only [Environment.sections, List.mem_cons, List.not_mem_nil, or_false] at hs
    rcases hs with rfl | rfl
    · rw [value?_sample.1, Option.mem_some_iff] at given
      refine ⟨_, given ▸ ofText_sample, fun m hm _ => small m.1 ?_⟩
      exact List.mem_map_of_mem (f := Prod.fst) hm
    · rw [value?_sample.2.1] at given
      cases given
  · rw [← String.ofList_toList (s := key)] at same
    simpa using own s hs v hv key.toList (Environment.after?_eq_some_iff.mpr same)

lemma admissible_sample : Admissible .usual sampleDocument sampleVariables sampleFlags where
  valid := ⟨⟨some ⟨some ⟨7, by decide⟩, some ⟨3, by decide⟩⟩, some ⟨some '.', none⟩⟩, rfl⟩
  flagged := by
    obtain ⟨drawn, board, -⟩ := flagged?_sample
    simp only [Environment.sections, List.forall_mem_cons, drawn, board]
    exact ⟨Environment.isSection_none, Environment.isSection_object (by decide),
      fun _ hs => absurd hs List.not_mem_nil⟩
  speaks := speaks_sample
  switches := by
    intro name hn d hd
    rw [flagged?_sample.2.2 name hn, Environment.single?,
      value?_sample.2.2.2.2.2 name hn] at hd
    cases hd
  width := Leaf.acceptable_of_check deciding?_sample.1 (a := ⟨9, by decide⟩) rfl
  height := Leaf.acceptable_of_check deciding?_sample.2.1 (a := ⟨4, by decide⟩) rfl
  blank := Leaf.acceptable_of_check deciding?_sample.2.2.1 (a := '.') rfl
  obstacle := Leaf.acceptable_of_check deciding?_sample.2.2.2 (a := '#') rfl

/-- A flag that names no setting decides none. -/
lemma admissible_unknown : Admissible .usual [] [] [("colour", .text "red")] := by
  have other : ∀ k ∈ keys, Environment.lower "colour" ≠ k := by decide +kernel
  have absent (k : String) (hk : k ∈ keys) : flagged? [("colour", .text "red")] k = none := by
    simp [flagged?, other k hk]
  have unset {α : Type} (l : Leaf α) (hl : l.group ∈ keys) :
      l.Acceptable .usual [] [] [("colour", .text "red")] := by
    intro d hd
    rw [Leaf.deciding?_eq, absent l.group hl] at hd
    cases hd
  exact {
    valid := ⟨.standard, rfl⟩
    flagged := fun s hs => by
      rw [absent s.1 ((by decide : ∀ s ∈ Environment.sections, s.1 ∈ keys) s hs)]
      exact Environment.isSection_none
    speaks := fun s _ => ⟨fun _ given => (by cases given), fun _ hv => absurd hv List.not_mem_nil⟩
    switches := fun name hn d hd => by
      rw [absent name ((by decide : Environment.switches ⊆ keys) hn)] at hd
      cases hd
    width := unset _ (by decide)
    height := unset _ (by decide)
    blank := unset _ (by decide)
    obstacle := unset _ (by decide) }

/-- A variable of its own over JSON, JSON over the file, and a flag beside what the file sets. Without
any of these an unknown flag is enough to be refused, and with all of them a height of zero in the file. -/
theorem load_decides_each_key_from_four_sources :
    Config.Selects .usual (.holding sampleFile) sampleVariables none none (some (Config.fileIn []))
      sampleDocument ∧
    Admissible .usual sampleDocument sampleVariables sampleFlags ∧ Named sampleFlags ∧
    (∃ s, load .usual (.holding sampleFile) sampleVariables none none sampleFlags = .ok s ∧
      s.size = ⟨⟨9, by decide⟩, ⟨4, by decide⟩⟩ ∧ s.glyphs = ⟨'.', '#'⟩) ∧
    (∃ r, load .usual (.holding none) [] none none [("colour", .text "red")] = .error (.rejected r) ∧
      ⟨[.key "colour"], .unexpected⟩ ∈ r.issues) ∧
    ∃ r, load .usual (.holding "[board]\nheight = 0") sampleVariables none none sampleFlags =
      .error (.config (Config.fileIn []) (.unusable (.rejected r))) := by
  have selected : Config.Selects .usual (.holding sampleFile) sampleVariables none none
      (some (Config.fileIn [])) sampleDocument :=
    Config.selects_holding (by decide +kernel) (by decide +kernel) (by decide +kernel)
  have named : Named sampleFlags := by
    have low : ∀ name ∈ ["MAP"], Environment.lower name ∈ keys := by decide +kernel
    exact fun m hm => low m.1 (List.mem_map_of_mem (f := Prod.fst) hm)
  have nothing : Config.Selects .usual (.holding none) [] none none none [] :=
    .nothing (by decide +kernel)
  have low : Config.Selects .usual (.holding "[board]\nheight = 0") sampleVariables none none
      (some (Config.fileIn [])) [("board", .object [("height", .int 0)])] :=
    Config.selects_holding (by decide +kernel) (by decide +kernel) (by decide +kernel)
  have refused : (Leaf.height .withoutSign).Refused [("board", .object [("height", .int 0)])] :=
    ⟨.int 0, rfl, fun a same => by cases same⟩
  obtain ⟨s, loaded, width, height, blank, obstacle⟩ :=
    (load_decides_each_key selected).1 sampleFlags admissible_sample named
  refine ⟨selected, admissible_sample, named, ⟨s, loaded, ?_, ?_⟩, ?_, ?_⟩
  · exact congrArg₂ BoardSize.mk (width.eq deciding?_sample.1 rfl) (height.eq deciding?_sample.2.1 rfl)
  · exact congrArg₂ Glyphs.mk (blank.eq deciding?_sample.2.2.1 rfl)
      (obstacle.eq deciding?_sample.2.2.2 rfl)
  · exact (load_decides_each_key nothing).2.1 _ admissible_unknown ("colour", .text "red")
      List.mem_cons_self (by decide +kernel)
  · exact (load_decides_each_key low).2.2 _ rfl (.inr (.inl refused)) sampleFlags

/-- Nothing is set but a flag that names no setting, or a number for a key of no meaning that has more
digits than are converted, and either keeps everything from being standard. -/
theorem unknown_keys_matter :
    Config.Selects .usual (.holding none) [] none none none [] ∧
    Admissible .usual [] [] [("colour", .text "red")] ∧
    load .usual (.holding none) [] none none [("colour", .text "red")] =
      .error (.rejected ⟨recordName, [⟨[.key "colour"], .unexpected⟩]⟩) ∧
    let json := Json.toText .log (.object [("note", .int (10 ^ Decimal.digitLimit))])
    load .usual (.holding none) [("TOYROBOT_BOARD", json)] none none [] =
      .error (.environment (.unreadable ⟨"board"⟩)) := by
  refine ⟨.nothing (by decide +kernel), admissible_unknown, by decide +kernel, ?_⟩
  intro json
  have long : ¬ Decimal.IsShort .withoutSign (10 ^ Decimal.digitLimit) := by
    rw [Decimal.isShort_withoutSign_iff, Decimal.natAbs_ten_pow]
    exact Nat.lt_irrefl _
  have standard : Json.Style.log.Standard := Json.Style.standard_of_mem _ (by simp)
  have plain : (Data.object [("note", .int (10 ^ Decimal.digitLimit))]).IsPlain none :=
    ⟨by simp, Data.isPlain_int _, trivial⟩
  have room : (Data.object [("note", .int (10 ^ Decimal.digitLimit))]).depth ≤
      (Environment.dialect .usual).depth := (by decide : 2 ≤ 980)
  have fails : Json.ofText (Environment.dialect .usual) json = .error .malformed :=
    (Json.givesIf_ofText standard plain room).2 fun short => long (short.2.1 .withoutSign rfl)
  have given : Environment.value? [("TOYROBOT_BOARD", json)] (namePrefix ++ "board") = some json := by
    have low : Environment.lower "TOYROBOT_BOARD" = namePrefix ++ "board" := by decide +kernel
    simp [Environment.value?, low]
  have read := Environment.settings_of_unreadable given fails
  rw [load, read]
  rfl

end Settings
end GridRobot
