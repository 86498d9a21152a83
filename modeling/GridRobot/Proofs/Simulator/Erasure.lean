import GridRobot.Proofs.Board.Update
import GridRobot.Proofs.Simulator.Journal
import Mathlib.Tactic.Lemma

/-! Lines that change nothing may be left out of a run: those that are no command, those whose command
is refused, and those that only ask. Whatever is left out of these, the board at the end and the
outcomes of all other lines are the same. -/
namespace GridRobot

/-- The items at the positions that are kept, in their order. -/
def kept {α : Type} (keep : Nat → Bool) : List α → List α
  | [] => []
  | x :: xs =>
    let rest := kept (fun i => keep (i + 1)) xs
    if keep 0 then x :: rest else rest

lemma kept_map {α β : Type} (f : α → β) (keep : Nat → Bool) (xs : List α) :
    kept keep (xs.map f) = (kept keep xs).map f := by
  induction xs generalizing keep with
  | nil => rfl
  | cons x xs ih =>
    simp only [List.map_cons, kept, ih]
    split <;> rfl

namespace Outcome

/-- What the outcome tells, whichever line it is of. -/
def unnumbered (o : Outcome) : Outcome := { o with context := none }

/-- The line was no command, or its command was not carried out, or it was a question. -/
def IsIdle (o : Outcome) : Prop :=
  o.ok = false ∨ o.data.get? "committed" = some (.bool false) ∨
    o.command = Command.report.toData ∨ o.command = Command.map.toData

end Outcome

lemma Command.toData_injective {c k : Command} (same : c.toData = k.toData) : c = k := by
  have read := congrArg (ofData .withoutSign) same
  rw [ofData_toData, ofData_toData] at read
  exact Except.ok.inj read

namespace StepReport

lemma unnumbered_outcomeAt (r : StepReport) (line : Nat) :
    (r.outcomeAt line).unnumbered = r.outcome := by
  cases r <;> rfl

end StepReport

namespace Simulator

variable {s : Simulator} {b c : Board} {line : String} {lines : List String}
  {reports : List StepReport}

/-- A line with an idle outcome hands on the board it was given. -/
theorem Stepped.board_of_isIdle {t : Step} (h : s.Stepped b line t)
    (idle : t.report.outcome.IsIdle) : t.board = b := by
  cases h with
  | failed read => rfl
  | rejected read answered invalid => rfl
  | @committed k output read answered valid =>
    rcases idle with failed | refused | report | map
    · cases failed
    · cases refused
    · obtain rfl := Command.toData_injective report
      exact b.after_report
    · obtain rfl := Command.toData_injective map
      exact b.after_map

/-- Along a run from which idle lines are left out the board is the same before every line that is
kept, so that each of these lines gives the same report. -/
theorem kept_of_run {keep : Nat → Bool} (ran : s.run b lines = .ok reports)
    (replayed : s.replay b lines = .ok c)
    (idle : ∀ (k : Nat) (r : StepReport), reports[k]? = some r → keep k = false →
      r.outcome.IsIdle) :
    s.replay b (kept keep lines) = .ok c ∧ s.run b (kept keep lines) = .ok (kept keep reports) := by
  induction lines generalizing b reports keep with
  | nil =>
    cases ran
    exact ⟨replayed, rfl⟩
  | cons line lines ih =>
    obtain ⟨t, rest, step, later, rfl⟩ := run_cons_eq_ok_iff.mp ran
    obtain ⟨u, step', onwards⟩ := replay_cons_eq_ok_iff.mp replayed
    cases step.symm.trans step'
    obtain ⟨last, reports⟩ := ih later onwards fun k r hr => idle (k + 1) r hr
    cases first : keep 0 with
    | true =>
      simp only [kept, first, if_true]
      exact ⟨replay_cons_eq_ok_iff.mpr ⟨t, step, last⟩,
        run_cons_eq_ok_iff.mpr ⟨t, _, step, reports, rfl⟩⟩
    | false =>
      have unchanged : t.board = b :=
        (step_eq_ok_iff.mp step).board_of_isIdle (idle 0 t.report rfl first)
      rw [unchanged] at last reports
      simp only [kept, first]
      exact ⟨last, reports⟩

lemma unnumbered_outcomes (reports : List StepReport) :
    (outcomes reports).map Outcome.unnumbered = reports.map StepReport.outcome := by
  refine List.ext_getElem? fun k => ?_
  simp only [List.getElem?_map, getElem?_outcomes, Option.map_map, Function.comp_def,
    StepReport.unnumbered_outcomeAt]

/-- Any choice of the lines with idle outcomes can be left out of a run that completes: the lines
that are kept lead to the same board and have the same outcomes but for the numbers of the lines. -/
theorem idle_lines_erasable (s : Simulator) (b : Board) (lines : List String)
    (complete : s.Completes b lines) :
    ∃ c os, s.replay b lines = .ok c ∧ (s.run b lines).map outcomes = .ok os ∧
      ∀ keep : Nat → Bool,
        (∀ (k : Nat) (o : Outcome), os[k]? = some o → keep k = false → o.IsIdle) →
        s.replay b (kept keep lines) = .ok c ∧
          ∃ ps, (s.run b (kept keep lines)).map outcomes = .ok ps ∧
            ps.map Outcome.unnumbered = (kept keep os).map Outcome.unnumbered := by
  obtain ⟨c, replayed⟩ := completes_iff_replay.mp complete
  obtain ⟨reports, ran⟩ := completes_iff_run.mp complete
  refine ⟨c, outcomes reports, replayed, by rw [ran]; rfl, fun keep idle => ?_⟩
  have quiet : ∀ (k : Nat) (r : StepReport), reports[k]? = some r → keep k = false →
      r.outcome.IsIdle := by
    intro k r hr left
    have given : (outcomes reports)[k]? = some (r.outcomeAt (k + 1)) := by
      rw [getElem?_outcomes, hr]
      rfl
    have numbered : (r.outcomeAt (k + 1)).IsIdle := idle k _ given left
    exact numbered
  obtain ⟨last, run⟩ := kept_of_run ran replayed quiet
  refine ⟨last, outcomes (kept keep reports), by rw [run]; rfl, ?_⟩
  rw [unnumbered_outcomes, ← kept_map, ← kept_map, unnumbered_outcomes]

/-- From a robot outside the board a turn that is refused, two lines that are no command and a map are
left out; two questions and a line that is no command are kept. -/
theorem idle_lines_erasable_from_outside :
    let s : Simulator := ⟨.standard, .standard⟩
    let b : Board := ⟨.between ⟨0, 0⟩ ⟨1, 0⟩, some ⟨⟨9, 9⟩, .north⟩, .empty⟩
    let lines := ["left", "REPORT", "PLACE 1,0,NORTH", "jump", "map", "PLACE 1,1", "right",
      "report", "fly"]
    let reports : List StepReport := [.ran (.rotate .left) none false,
      .ran .report (some "9,9,NORTH") false, .ran (.place ⟨1, 0⟩ .north) none true,
      .failed (.unrecognised "jump"), .ran .map (some "0^") true, .failed (.badPlace "1,1"),
      .ran (.rotate .right) none true, .ran .report (some "1,0,EAST") true,
      .failed (.unrecognised "fly")]
    let keep : Nat → Bool := fun k => k ∈ [1, 2, 5, 6, 7]
    s.Completes b lines ∧ s.run b lines = .ok reports ∧
      (∀ (k : Nat) (o : Outcome), (outcomes reports)[k]? = some o → keep k = false → o.IsIdle) ∧
      ∃ c, s.replay b lines = .ok c ∧ s.replay b (kept keep lines) = .ok c ∧
        ∃ ps, (s.run b (kept keep lines)).map outcomes = .ok ps ∧
          ps.map Outcome.unnumbered = (kept keep (outcomes reports)).map Outcome.unnumbered := by
  intro s b lines reports keep
  have complete : s.Completes b lines := rfl
  have ran : s.run b lines = .ok reports := rfl
  have idle : ∀ (k : Nat) (o : Outcome), (outcomes reports)[k]? = some o → keep k = false →
      o.IsIdle := by
    intro k o given left
    match k with
    | 0 =>
      obtain rfl := Option.some.inj given
      exact .inr (.inl rfl)
    | 3 | 8 =>
      obtain rfl := Option.some.inj given
      exact .inl rfl
    | 4 =>
      obtain rfl := Option.some.inj given
      exact .inr (.inr (.inr rfl))
    | 1 | 2 | 5 | 6 | 7 => cases left
    | k + 9 => cases given
  obtain ⟨c, os, replayed, told, erasable⟩ := idle_lines_erasable s b lines complete
  obtain rfl : outcomes reports = os := Except.ok.inj told
  obtain ⟨last, run⟩ := erasable keep idle
  exact ⟨complete, ran, idle, c, replayed, last, run⟩

end Simulator
end GridRobot
