import GridRobot.Proofs.Command.Payload
import GridRobot.Proofs.Simulator.Step
import Mathlib.Tactic.Lemma

/-! The outcomes of a run are a journal: the commands in them that were carried out lead from the
first board to the last, and each outcome tells what reading its line alone would tell. -/
namespace GridRobot

/-- A way to get a command back from its record. -/
inductive Command.Decodes : (Data → Checked Command) → Prop
  | record (k : Decimal.Counting) : Decodes (ofData k)
  | text {s : Json.Style} (k : Decimal.Counting) (standard : s.Standard) :
    Decodes fun d => ofJson k (Json.toText s d)

/-- Commands that were read from a line survive every way of writing them down. -/
theorem Command.Decodes.toData {decode : Data → Checked Command} (h : Decodes decode)
    {c : Command} (near : ∀ k, c.IsNear k) : decode c.toData = .ok c := by
  cases h with
  | record k => exact ofData_toData k c
  | text k standard => exact ofJson_toText standard (near k)

namespace Outcome

/-- The outcome is that of a line whose command was carried out. -/
def isCommitted (o : Outcome) : Bool :=
  o.ok && match o.data.get? "committed" with
    | some (.bool committed) => committed
    | _ => false

/-- The record of the command that was run, if there was one. -/
def command (o : Outcome) : Data := (o.data.get? "command").getD .null

/-- The commands that were carried out, unless one of them cannot be decoded. -/
def committedCommands (decode : Data → Checked Command) (os : List Outcome) :
    Checked (List Command) :=
  (os.filter isCommitted).mapM fun o => decode o.command

/-- An outcome tells about its line what another one does that comes from reading the line. -/
structure Echoes (o p : Outcome) : Prop where
  ok : o.ok = p.ok
  command : o.ok = true → o.data.get? "command" = some (.object p.data)
  failure : o.ok = false → o.failure = p.failure

end Outcome

namespace StepReport

/-- The command, if it was carried out. -/
def committed? : StepReport → Option Command
  | ran c _ true => some c
  | _ => none

/-- What the line was read as. -/
def reading : StepReport → LineReading
  | failed e => .error e
  | ran c _ _ => .ok c

lemma reading_of_committed? {r : StepReport} {c : Command} (h : r.committed? = some c) :
    r.reading = .ok c := by
  cases r with
  | failed e => cases h
  | ran k output committed =>
    cases committed with
    | false => cases h
    | true =>
      cases h
      rfl

lemma isCommitted_outcomeAt (r : StepReport) (line : Nat) :
    (r.outcomeAt line).isCommitted = r.committed?.isSome := by
  cases r with
  | failed e => rfl
  | ran k output committed => cases committed <;> rfl

lemma command_outcomeAt {r : StepReport} {c : Command} (h : r.reading = .ok c) (line : Nat) :
    (r.outcomeAt line).command = c.toData := by
  cases r with
  | failed e => cases h
  | ran k output committed =>
    cases h
    rfl

theorem echoes_outcomeAt (r : StepReport) (line : Nat) :
    (r.outcomeAt line).Echoes r.reading.outcome := by
  cases r with
  | failed e => exact ⟨rfl, fun h => (by cases h), fun _ => rfl⟩
  | ran k output committed => exact ⟨rfl, fun _ => rfl, fun h => by cases h⟩

end StepReport

namespace Simulator

variable {s : Simulator} {b c : Board} {line : String} {lines : List String}
  {reports : List StepReport}

/-- A step only changes the board by a command that its report says was carried out. -/
lemma Stepped.board_eq {t : Step} (h : s.Stepped b line t) :
    t.board = t.report.committed?.toList.foldl Board.after b := by
  cases h <;> rfl

lemma Stepped.reading_eq {t : Step} (h : s.Stepped b line t) :
    Command.ofLine line = .ok t.report.reading := by
  cases h with
  | failed read => exact read
  | committed read _ _ => exact read
  | rejected read _ _ => exact read

theorem replay_of_run (h : s.run b lines = .ok reports) :
    s.replay b lines = .ok ((reports.filterMap StepReport.committed?).foldl Board.after b) := by
  induction lines generalizing b reports with
  | nil =>
    cases h
    rfl
  | cons line lines ih =>
    obtain ⟨t, rest, step, ran, rfl⟩ := run_cons_eq_ok_iff.mp h
    -- The board a step hands on is the fold over its own report, so the whole fold splits here.
    have board := (step_eq_ok_iff.mp step).board_eq
    have later := ih ran
    refine replay_cons_eq_ok_iff.mpr ⟨t, step, ?_⟩
    rw [later, board, List.filterMap_cons]
    cases t.report.committed? with
    | none => rfl
    | some k => rfl

/-- Every report tells what its own line was read as. -/
theorem readings_of_run (h : s.run b lines = .ok reports) :
    lines.map Command.ofLine = reports.map fun r => .ok r.reading := by
  induction lines generalizing b reports with
  | nil =>
    cases h
    rfl
  | cons line lines ih =>
    obtain ⟨t, rest, step, ran, rfl⟩ := run_cons_eq_ok_iff.mp h
    rw [List.map_cons, List.map_cons, ih ran, (step_eq_ok_iff.mp step).reading_eq]

/-- The numbers of the lines do not matter for what is decoded. -/
lemma committedCommands_mapIdx {decode : Data → Checked Command} (number : Nat → Nat)
    (decoded : ∀ r ∈ reports, ∀ c, r.reading = .ok c → decode c.toData = .ok c) :
    Outcome.committedCommands decode (reports.mapIdx fun i r => r.outcomeAt (number i)) =
      .ok (reports.filterMap StepReport.committed?) := by
  -- The later reports are numbered from the second on, so the numbering has to be arbitrary.
  induction reports generalizing number with
  | nil => rfl
  | cons r reports ih =>
    have later := ih (fun i => number (i + 1)) fun q hq => decoded q (List.mem_cons_of_mem _ hq)
    rw [Outcome.committedCommands] at later ⊢
    rw [List.mapIdx_cons, List.filter_cons, StepReport.isCommitted_outcomeAt,
      List.filterMap_cons]
    cases h : r.committed? with
    | none => simpa using later
    | some c =>
      have read := StepReport.reading_of_committed? h
      have first := decoded r List.mem_cons_self c read
      simp only [Option.isSome_some, if_true, List.mapM_cons]
      rw [StepReport.command_outcomeAt read, first, later]
      rfl

/-- From the outcomes of a run it can be done over, without the lines and without any check. -/
structure Journals (s : Simulator) (b : Board) (lines : List String) (os : List Outcome) :
    Prop where
  rebuilt : ∀ decode, Command.Decodes decode → ∃ cs,
    Outcome.committedCommands decode os = .ok cs ∧
      s.replay b lines = .ok (cs.foldl Board.after b)
  complete : os.length = lines.length
  echoed : ∀ (k : Nat) (line : String) (o : Outcome), lines[k]? = some line → os[k]? = some o →
    ∃ reading, Command.ofLine line = .ok reading ∧ o.Echoes reading.outcome

/-- The outcomes of every run that completes are its journal, whatever board it starts on. -/
theorem run_journals (s : Simulator) (b : Board) (lines : List String)
    (reports : List StepReport) (ran : s.run b lines = .ok reports) :
    s.Journals b lines (outcomes reports) := by
  have readings := readings_of_run ran
  refine ⟨fun decode how => ?_, ?_, fun k line o hline ho => ?_⟩
  · have decoded : ∀ r ∈ reports, ∀ c, r.reading = .ok c → decode c.toData = .ok c := by
      intro r hr c read
      have mem : Except.ok r.reading ∈ lines.map Command.ofLine := by
        rw [readings]
        exact List.mem_map_of_mem hr
      obtain ⟨line, -, hline⟩ := List.mem_map.mp mem
      rw [read] at hline
      exact how.toData fun k => Command.isNear_of_ofLine hline
    exact ⟨_, committedCommands_mapIdx (· + 1) decoded, replay_of_run ran⟩
  · rw [outcomes, List.length_mapIdx, length_of_run ran]
  · rw [getElem?_outcomes, Option.map_eq_some_iff] at ho
    obtain ⟨r, hr, rfl⟩ := ho
    have same := congrArg (·[k]?) readings
    simp only [List.getElem?_map, hline, hr, Option.map_some, Option.some.injEq] at same
    exact ⟨r.reading, same, r.echoes_outcomeAt (k + 1)⟩

/-- A robot that stands outside the board is turned in vain, then placed inside, held up by its own
obstacle and asked for something that is no command. -/
theorem run_journals_from_outside :
    let s : Simulator := ⟨.standard, .standard⟩
    let b : Board := ⟨.between ⟨0, 0⟩ ⟨4, 4⟩, some ⟨⟨9, 9⟩, .north⟩, .empty⟩
    let lines := ["left", "PLACE 1,1,NORTH", "place_object", "Move", "fly", "report"]
    ¬ b.Valid ∧ ∃ reports, s.run b lines = .ok reports ∧ s.Journals b lines (outcomes reports) := by
  intro s b lines
  have complete : s.Completes b lines := rfl
  obtain ⟨reports, ran⟩ := completes_iff_run.mp complete
  exact ⟨by decide, reports, ran, run_journals s b lines reports ran⟩

end Simulator
end GridRobot
