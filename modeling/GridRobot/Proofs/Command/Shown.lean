import GridRobot.Proofs.Data.Json.Decode
import GridRobot.Proofs.Outcome.Printed
import GridRobot.Proofs.Simulator.Record
import Mathlib.Data.List.Forall2

/-! The text for people that answers a line which is only read. For a command it has one line for each
member of the record of the command, and no two commands have the same text. -/
namespace GridRobot
open Decimal Outcome

/-- A member of a record on a line: a text as it stands, and a cell as JSON without blanks. -/
inductive FieldLine : String × Data → String → Prop
  | text (key t : String) : FieldLine (key, .text t) ("  " ++ key ++ ": " ++ t)
  | cell (key : String) (p : Cell) :
      FieldLine (key, p.toData) ("  " ++ key ++ ": " ++
        ("\x7b\"x\":" ++ String.ofList (ofInt p.x) ++ ",\"y\":" ++ String.ofList (ofInt p.y) ++
          "\x7d"))

/-- What a line is answered with for people, if it can be read at all. -/
def Command.shown (line : String) (verbose : Bool) :
    Except OverlongNumeral (Except TooDeep String) :=
  (ofLine line).map fun reading => reading.outcome.render ⟨false, verbose⟩

lemma Cell.fieldText_toData (p : Cell) :
    fieldText p.toData = ("\x7b\"x\":" ++ String.ofList (ofInt p.x) ++ ",\"y\":" ++
      String.ofList (ofInt p.y) ++ "\x7d").toList := by
  simp [fieldText, toData, Json.write, Json.writeMembers, Json.writeText, Json.lineBreak,
    Json.escape, Json.Style.inline]

lemma Cell.decode?_fieldText (p : Cell) :
    Json.decode? (String.ofList (fieldText p.toData)) = some p.toData := by
  have distinct : ["x", "y"].Nodup := by decide
  exact Json.decode?_toText (Json.Style.standard_of_mem .inline (by simp))
    ⟨distinct, Data.isPlain_int p.x, Data.isPlain_int p.y, trivial⟩

/-- No two cells are written in the same way, since a cell is read back from its JSON. -/
lemma Cell.fieldText_injective {p q : Cell} (same : fieldText p.toData = fieldText q.toData) :
    p = q := by
  have data : p.toData = q.toData := by
    apply Option.some.inj
    rw [← p.decode?_fieldText, same, q.decode?_fieldText]
  simpa [toData, Cell.ext_iff] using data

lemma Outcome.fieldLine_inj {key : String} {x y : Data} :
    fieldLine (key, x) = fieldLine (key, y) ↔ fieldText x = fieldText y :=
  List.append_right_inj _

lemma FieldLine.toList_eq {m : String × Data} {t : String} (line : FieldLine m t) :
    t.toList = fieldLine m := by
  cases line with
  | text key t =>
    rw [String.toList_append, String.toList_append, String.toList_append]
    rfl
  | cell key p =>
    rw [String.toList_append, ← p.fieldText_toData, String.toList_append, String.toList_append]
    rfl

namespace Command

variable {c k : Command} {m : String × Data}

lemma isVisible_kind (c : Command) : IsVisible c.kind.toList := by
  cases c <;> simp only [kind] <;> decide

/-- Under each name the record of a command has a text without control characters, or a cell. -/
lemma visible_of_mem (hm : m ∈ c.toMembers) :
    IsVisible m.1.toList ∧
      ((∃ t, m.2 = .text t ∧ IsVisible t.toList) ∨ ∃ p : Cell, m.2 = p.toData) := by
  have tag : IsVisible tagKey.toList := by decide
  rcases List.mem_cons.mp hm with rfl | other
  · exact ⟨tag, .inl ⟨c.kind, rfl, c.isVisible_kind⟩⟩
  · cases c with
    | place p h =>
      simp only [List.mem_cons, List.not_mem_nil, or_false] at other
      rcases other with rfl | rfl
      · exact ⟨by simp only; decide, .inr ⟨p, rfl⟩⟩
      · exact ⟨by simp only; decide, .inl ⟨h.name, rfl, by cases h <;> decide⟩⟩
    | rotate t =>
      rw [List.mem_singleton] at other
      subst other
      exact ⟨by simp only; decide, .inl ⟨t.name, rfl, by cases t <;> decide⟩⟩
    | move | report | placeObject | map => cases other

lemma fieldLine_of_mem (hm : m ∈ c.toMembers) : FieldLine m (String.ofList (fieldLine m)) := by
  obtain ⟨key, x⟩ := m
  have exists_line : ∃ t, FieldLine (key, x) t := by
    rcases (visible_of_mem hm).2 with ⟨t, rfl, -⟩ | ⟨p, rfl⟩
    · exact ⟨_, .text key t⟩
    · exact ⟨_, .cell key p⟩
  obtain ⟨t, line⟩ := exists_line
  rwa [← line.toList_eq, String.ofList_toList]

lemma isVisible_fieldLine (hm : m ∈ c.toMembers) : IsVisible (fieldLine m) := by
  obtain ⟨key, x⟩ := m
  obtain ⟨name, value⟩ := visible_of_mem hm
  have text : IsVisible (fieldText x) := by
    rcases value with ⟨t, rfl, visible⟩ | ⟨p, rfl⟩
    · exact visible
    · have digits (i : Int) : IsVisible (ofInt i) := fun d hd => (Json.isGraphic_ofInt i d hd).1
      rw [p.fieldText_toData]
      simp only [String.toList_append, String.toList_ofList, isVisible_append, digits]
      decide
  simp only [fieldLine, isVisible_append, name, text]
  decide

/-- Commands of one kind can differ only in what that kind takes. -/
lemma cases_of_kind (same : c.kind = k.kind) :
    (∃ p h q g, c = .place p h ∧ k = .place q g) ∨ (∃ t u, c = .rotate t ∧ k = .rotate u) ∨ c = k := by
  cases c <;> cases k <;> simp_all [kind]

/-- The lines of its members tell what a command is. -/
theorem eq_of_fieldLines (same : c.toMembers.map fieldLine = k.toMembers.map fieldLine) : c = k := by
  have text {key t u : String} (line : fieldLine (key, .text t) = fieldLine (key, .text u)) : t = u :=
    String.toList_injective (fieldLine_inj.mp line)
  obtain ⟨tag, rest⟩ := List.cons.inj same
  rcases cases_of_kind (text tag) with ⟨p, h, q, g, rfl, rfl⟩ | ⟨t, u, rfl, rfl⟩ | rfl
  · obtain ⟨location, rest⟩ := List.cons.inj rest
    obtain ⟨facing, -⟩ := List.cons.inj rest
    obtain rfl := Cell.fieldText_injective (fieldLine_inj.mp location)
    have heading := congrArg Heading.ofName? (text facing)
    rw [h.ofName?_name, g.ofName?_name] at heading
    rw [Option.some.inj heading]
  · obtain ⟨direction, -⟩ := List.cons.inj rest
    have turn := congrArg Turn.ofName? (text direction)
    rw [t.ofName?_name, u.ofName?_name] at turn
    rw [Option.some.inj turn]
  · rfl

/-- The lines of the text: a heading, and the members of the record in their order. -/
lemma plainText_outcome (c : Command) (verbose : Bool) :
    (LineReading.outcome (.ok c)).plainText verbose =
      String.ofList (printed ("OK  parse".toList :: c.toMembers.map fieldLine)) := by
  cases verbose <;> simp [plainText, successLines, LineReading.outcome, success, section?]

lemma splitOn_plainText (c : Command) (verbose : Bool) :
    ((LineReading.outcome (.ok c)).plainText verbose).toList.splitOn '\n' =
      "OK  parse".toList :: c.toMembers.map fieldLine := by
  have lines : ∀ l ∈ "OK  parse".toList :: c.toMembers.map fieldLine, l ≠ [] ∧ IsVisible l := by
    intro l hl
    rcases List.mem_cons.mp hl with rfl | member
    · exact ⟨by decide, by decide⟩
    · obtain ⟨m, hm, rfl⟩ := List.mem_map.mp member
      exact ⟨List.cons_ne_nil _ _, isVisible_fieldLine hm⟩
  rw [plainText_outcome, String.toList_ofList]
  exact splitOn_printed (List.cons_ne_nil _ _) lines

/-- A place is written without blanks, and with a sign only if it is below zero. -/
example : (LineReading.outcome (.ok (.place ⟨7, -32768⟩ .west))).plainText false =
    "OK  parse\n  kind: place\n  location: \x7b\"x\":7,\"y\":-32768\x7d\n  facing: West" := by
  decide +kernel

theorem plainText_injective {verbose wordy : Bool} :
    (LineReading.outcome (.ok c)).plainText verbose = (LineReading.outcome (.ok k)).plainText wordy ↔
      c = k := by
  constructor
  · intro same
    have lines := congrArg (fun t : String => t.toList.splitOn '\n') same
    simp only [splitOn_plainText] at lines
    exact eq_of_fieldLines (List.cons.inj lines).2
  · rintro rfl
    rw [plainText_outcome, plainText_outcome]

lemma shown_of_read {line : String} (read : ofLine line = .ok (.ok c)) (verbose : Bool) :
    shown line verbose = .ok (.ok ((LineReading.outcome (.ok c)).plainText verbose)) := by
  rw [shown, read]
  rfl

/-- Two lines that are commands are answered with the same text exactly if they are read as the same
command, and the lines of the text are a heading and one line for each member of its record. -/
theorem shown_tells_command (line line' : String) (c c' : Command) (verbose : Bool)
    (read : ofLine line = .ok (.ok c)) (read' : ofLine line' = .ok (.ok c')) :
    (shown line verbose = shown line' verbose ↔ ofLine line = ofLine line') ∧
    ∃ text fields, shown line verbose = .ok (.ok text) ∧
      text.toList.splitOn '\n' = ("OK  parse" :: fields).map String.toList ∧
      List.Forall₂ FieldLine c.toMembers fields := by
  have answer := shown_of_read read verbose
  have answer' := shown_of_read read' verbose
  refine ⟨?_, _, c.toMembers.map fun m => String.ofList (fieldLine m), answer, ?_, ?_⟩
  · rw [answer, answer', read, read']
    simp only [Except.ok.injEq]
    exact plainText_injective
  · rw [splitOn_plainText]
    simp
  · rw [List.forall₂_map_right_iff, List.forall₂_same]
    exact fun m hm => fieldLine_of_mem hm

/-- Letter case, a plus sign and zeros in front are not shown. -/
theorem shown_tells_command_respelled :
    let line := "pLaCe +007,-0032768,WEST"
    let line' := "PLACE 7,-32768,west"
    let c : Command := .place ⟨7, -32768⟩ .west
    ofLine line = .ok (.ok c) ∧ ofLine line' = .ok (.ok c) ∧
      shown line true = shown line' true ∧
      ∃ text fields, shown line true = .ok (.ok text) ∧
        text.toList.splitOn '\n' = ("OK  parse" :: fields).map String.toList ∧
        List.Forall₂ FieldLine c.toMembers fields := by
  intro line line' c
  have read : ofLine line = .ok (.ok c) := by decide +kernel
  have read' : ofLine line' = .ok (.ok c) := by decide +kernel
  obtain ⟨same, listed⟩ := shown_tells_command line line' c c true read read'
  exact ⟨read, read', same.mpr (read.trans read'.symm), listed⟩

end Command
end GridRobot
