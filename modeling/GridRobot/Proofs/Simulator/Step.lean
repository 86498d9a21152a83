import GridRobot.Proofs.Board.Update
import GridRobot.Proofs.Result
import GridRobot.Simulator.Outcome
import Mathlib.Tactic.Lemma

/-! What a line can do to a board, and how the steps of several lines are joined. -/
namespace GridRobot
namespace Simulator

variable {s : Simulator} {b c : Board} {line : String} {lines : List String}

lemma step_of_overlong {e : OverlongNumeral} (read : Command.ofLine line = .error e) :
    s.step b line = .error (.numeral e) := by
  simp only [step, read]
  rfl

lemma step_of_failed {e : LineError} (read : Command.ofLine line = .ok (.error e)) :
    s.step b line = .ok ⟨b, .failed e, some (.lineFailed e.code line)⟩ := by
  simp only [step, read]
  rfl

lemma step_of_command {k : Command} (read : Command.ofLine line = .ok (.ok k)) :
    s.step b line = (s.perform b line k).mapError .answer := by
  simp only [step, read]
  rfl

lemma perform_of_unanswered {k : Command} {e : OverlongInteger}
    (unanswered : b.answer k s.glyphs = .error e) : s.perform b line k = .error e := by
  simp only [perform, unanswered]
  rfl

lemma perform_of_answered {k : Command} {output : Option String}
    (answered : b.answer k s.glyphs = .ok output) :
    s.perform b line k = .ok
      (if (b.after k).Valid then ⟨b.after k, .ran k output true, none⟩
      else ⟨b, .ran k output false, some (.boardRejected k.kind line)⟩) := by
  simp only [perform, answered]
  by_cases valid : (b.after k).Valid
  · simp only [valid, if_true]; rfl
  · simp only [valid, if_false]; rfl

/-- The three ways in which a line can be dealt with. -/
inductive Stepped (s : Simulator) (b : Board) (line : String) : Step → Prop
  | failed {e : LineError} (read : Command.ofLine line = .ok (.error e)) :
      Stepped s b line ⟨b, .failed e, some (.lineFailed e.code line)⟩
  | committed {k : Command} {output : Option String} (read : Command.ofLine line = .ok (.ok k))
      (answered : b.answer k s.glyphs = .ok output) (valid : (b.after k).Valid) :
      Stepped s b line ⟨b.after k, .ran k output true, none⟩
  | rejected {k : Command} {output : Option String} (read : Command.ofLine line = .ok (.ok k))
      (answered : b.answer k s.glyphs = .ok output) (invalid : ¬ (b.after k).Valid) :
      Stepped s b line ⟨b, .ran k output false, some (.boardRejected k.kind line)⟩

/-- A step that does not stop the run is one of the three, and each of the three is a step. -/
theorem step_eq_ok_iff {t : Step} : s.step b line = .ok t ↔ s.Stepped b line t := by
  constructor
  · intro h
    cases read : Command.ofLine line with
    | error e => rw [step_of_overlong read] at h; cases h
    | ok reading =>
      cases reading with
      | error e => rw [step_of_failed read] at h; cases h; exact .failed read
      | ok k =>
        rw [step_of_command read] at h
        cases answered : b.answer k s.glyphs with
        | error e => rw [perform_of_unanswered answered] at h; cases h
        | ok output =>
          rw [perform_of_answered answered] at h
          by_cases valid : (b.after k).Valid
          · rw [if_pos valid] at h; cases h; exact .committed read answered valid
          · rw [if_neg valid] at h; cases h; exact .rejected read answered valid
  · intro h
    cases h with
    | failed read => exact step_of_failed read
    | committed read answered valid =>
      rw [step_of_command read, perform_of_answered answered, if_pos valid]
      rfl
    | rejected read answered invalid =>
      rw [step_of_command read, perform_of_answered answered, if_neg invalid]
      rfl

/-- A robot is placed on every cell that is free, whatever the board was like before. -/
lemma step_of_free {p : Cell} {h : Heading} (read : Command.ofLine line = .ok (.ok (.place p h)))
    (free : b.IsFree p) :
    s.step b line = .ok ⟨b.withRobot (some ⟨p, h⟩), .ran (.place p h) none true, none⟩ :=
  step_eq_ok_iff.mpr (.committed read rfl (Board.valid_withRobot_iff.mpr free))

/-- A line stops the run for one of two reasons: it cannot be read, or its command has no answer. -/
theorem step_eq_error_iff {e : StepFault} :
    s.step b line = .error e ↔
      (∃ f, Command.ofLine line = .error f ∧ e = .numeral f) ∨
      ∃ k f, Command.ofLine line = .ok (.ok k) ∧ b.answer k s.glyphs = .error f ∧
        e = .answer f := by
  constructor
  · intro h
    cases read : Command.ofLine line with
    | error f =>
      rw [step_of_overlong read] at h
      cases h
      exact .inl ⟨f, rfl, rfl⟩
    | ok reading =>
      cases reading with
      | error f => rw [step_of_failed read] at h; cases h
      | ok k =>
        rw [step_of_command read] at h
        cases answered : b.answer k s.glyphs with
        | error f =>
          rw [perform_of_unanswered answered] at h
          cases h
          exact .inr ⟨k, f, rfl, answered, rfl⟩
        | ok output => rw [perform_of_answered answered] at h; cases h
  · intro given
    rcases given with ⟨f, read, rfl⟩ | ⟨k, f, read, unanswered, rfl⟩
    · exact step_of_overlong read
    · rw [step_of_command read, perform_of_unanswered unanswered]
      rfl

@[simp] theorem replay_nil : s.replay b [] = .ok b := rfl

theorem replay_cons_eq_ok_iff :
    s.replay b (line :: lines) = .ok c ↔
      ∃ t, s.step b line = .ok t ∧ s.replay t.board lines = .ok c :=
  bind_eq_ok_iff

theorem replay_append_eq_ok_iff {xs ys : List String} :
    s.replay b (xs ++ ys) = .ok c ↔
      ∃ d, s.replay b xs = .ok d ∧ s.replay d ys = .ok c := by
  induction xs generalizing b with
  | nil => simp
  | cons x xs ih =>
    rw [List.cons_append, replay_cons_eq_ok_iff]
    constructor
    · intro h
      obtain ⟨t, step, rest⟩ := h
      obtain ⟨d, first, second⟩ := ih.mp rest
      exact ⟨d, replay_cons_eq_ok_iff.mpr ⟨t, step, first⟩, second⟩
    · intro h
      obtain ⟨d, first, second⟩ := h
      obtain ⟨t, step, rest⟩ := replay_cons_eq_ok_iff.mp first
      exact ⟨t, step, ih.mpr ⟨d, rest, second⟩⟩

/-- No line stops the run. -/
def Completes (s : Simulator) (b : Board) (lines : List String) : Prop :=
  (s.journal b lines).2 = none

lemma completes_nil : s.Completes b [] := rfl

theorem completes_cons_iff :
    s.Completes b (line :: lines) ↔ ∃ t, s.step b line = .ok t ∧ s.Completes t.board lines := by
  cases h : s.step b line with
  | error e => simp [Completes, journal, h]
  | ok t => simp [Completes, journal, h]

/-- A run without a fault leads to a board. -/
theorem completes_iff_replay : s.Completes b lines ↔ ∃ c, s.replay b lines = .ok c := by
  induction lines generalizing b with
  | nil => simp [completes_nil]
  | cons line lines ih =>
    rw [completes_cons_iff]
    constructor
    · intro h
      obtain ⟨t, step, rest⟩ := h
      obtain ⟨c, replayed⟩ := ih.mp rest
      exact ⟨c, replay_cons_eq_ok_iff.mpr ⟨t, step, replayed⟩⟩
    · intro h
      obtain ⟨c, replayed⟩ := h
      obtain ⟨t, step, rest⟩ := replay_cons_eq_ok_iff.mp replayed
      exact ⟨t, step, ih.mpr ⟨c, rest⟩⟩

theorem run_cons_eq_ok_iff {reports : List StepReport} :
    s.run b (line :: lines) = .ok reports ↔
      ∃ t rest, s.step b line = .ok t ∧ s.run t.board lines = .ok rest ∧
        reports = t.report :: rest := by
  unfold run
  cases h : s.step b line with
  | error e => simp [journal, h]
  | ok t =>
    cases hj : s.journal t.board lines with
    | mk ts fault =>
      cases fault with
      | none => simp [journal, h, hj, eq_comm]
      | some e => simp [journal, h, hj]

lemma run_eq_ok_iff {reports : List StepReport} :
    s.run b lines = .ok reports ↔
      s.Completes b lines ∧ (s.journal b lines).1.map Step.report = reports := by
  unfold Completes run
  cases s.journal b lines with
  | mk ts fault => cases fault <;> simp

/-- A run without a fault has reports. -/
theorem completes_iff_run : s.Completes b lines ↔ ∃ reports, s.run b lines = .ok reports := by
  simp only [run_eq_ok_iff, exists_and_left, exists_eq', and_true]

lemma getElem?_outcomes (reports : List StepReport) (k : Nat) :
    (outcomes reports)[k]? = reports[k]?.map fun r => r.outcomeAt (k + 1) := by
  rw [outcomes, List.getElem?_mapIdx]

theorem length_of_run {reports : List StepReport} (h : s.run b lines = .ok reports) :
    reports.length = lines.length := by
  induction lines generalizing b reports with
  | nil =>
    cases h
    rfl
  | cons line lines ih =>
    obtain ⟨t, rest, -, ran, rfl⟩ := run_cons_eq_ok_iff.mp h
    simp [ih ran]

end Simulator
end GridRobot
