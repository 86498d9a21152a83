import GridRobot.Proofs.Board.Update
import GridRobot.Proofs.Simulator.Faults
import Mathlib.Tactic.Lemma

/-! What one line does on a valid board: when its command is carried out, what is answered, and what of
the board is different afterwards. -/
namespace GridRobot

namespace Board

/-- The effect of a command: whether it is carried out, and the board after it. Only a placement and
a step can be refused, and nothing but what is named here is different afterwards. -/
inductive Effect (b : Board) : Command → Bool → Board → Prop
  | placed {p : Cell} {h : Heading} (free : b.IsFree p) :
      Effect b (.place p h) true { b with robot := some ⟨p, h⟩ }
  | notPlaced {p : Cell} {h : Heading} (taken : ¬ b.IsFree p) : Effect b (.place p h) false b
  | moved {r : Robot} (present : b.robot = some r) (free : b.IsFree r.ahead) :
      Effect b .move true { b with robot := some ⟨r.ahead, r.heading⟩ }
  | notMoved {r : Robot} (present : b.robot = some r) (taken : ¬ b.IsFree r.ahead) :
      Effect b .move false b
  | turned {r : Robot} {t : Turn} (present : b.robot = some r) :
      Effect b (.rotate t) true { b with robot := some ⟨r.location, r.heading.turned t⟩ }
  | blocked {r : Robot} {obstacles : CellSet} (present : b.robot = some r)
      (added : ∀ p, p ∈ obstacles ↔ p ∈ b.obstacles ∨ p = r.ahead) :
      Effect b .placeObject true { b with obstacles := obstacles }
  | asked {k : Command} (question : k = .report ∨ k = .map) : Effect b k true b
  | absent {k : Command} (absent : b.robot = none) (other : ∀ p h, k ≠ .place p h) :
      Effect b k true b

/-- The answer to a command, which only a report of a robot and a map have. -/
inductive Answered (b : Board) (g : Glyphs) : Command → Option String → Prop
  | report {r : Robot} {text : String} (present : b.robot = some r) (reported : r.report = .ok text) :
      Answered b g .report (some text)
  | map : Answered b g .map (some (b.drawing g))
  | silent {k : Command} (other : k ≠ .map) (unplaced : k = .report → b.robot = none) :
      Answered b g k none

variable {b : Board} {g : Glyphs} {k : Command} {output : Option String}

theorem answered_of_answer (h : b.answer k g = .ok output) : b.Answered g k output := by
  cases k with
  | map =>
    cases h
    exact .map
  | report =>
    cases present : b.robot with
    | none =>
      simp only [answer, present] at h
      cases h
      exact .silent (by simp) fun _ => present
    | some r =>
      simp only [answer, present] at h
      obtain ⟨text, reported, rfl⟩ := map_eq_ok_iff.mp h
      exact .report present reported
  | place | move | rotate | placeObject =>
    cases h
    exact .silent (by simp) (by simp)

/-- A candidate that is valid has the effect of its command. -/
theorem effect_of_valid (valid : (b.after k).Valid) : b.Effect k true (b.after k) := by
  cases present : b.robot with
  | none =>
    cases k with
    | place p h => exact .placed (valid_withRobot_iff.mp valid)
    | move | rotate | report | placeObject | map =>
      rw [after_of_absent present (by simp)]
      exact .absent present (by simp)
  | some r =>
    cases k with
    | place p h => exact .placed (valid_withRobot_iff.mp valid)
    | move =>
      rw [after_move present] at valid ⊢
      exact .moved present (valid_withRobot_iff.mp valid)
    | rotate t =>
      rw [after_rotate present]
      exact .turned present
    | placeObject =>
      rw [after_placeObject present]
      refine .blocked present fun p => ?_
      rw [CellSet.mem_insert, or_comm]
    | report =>
      rw [after_report]
      exact .asked (.inl rfl)
    | map =>
      rw [after_map]
      exact .asked (.inr rfl)

/-- On a valid board no other candidate is invalid than a robot on a cell that is not free. -/
theorem effect_of_invalid (valid : b.Valid) (invalid : ¬ (b.after k).Valid) :
    b.Effect k false b := by
  cases present : b.robot with
  | none =>
    cases k with
    | place p h =>
      rw [after_place, valid_withRobot_iff] at invalid
      exact .notPlaced invalid
    | move | rotate | report | placeObject | map =>
      rw [after_of_absent present (by simp)] at invalid
      exact absurd valid invalid
  | some r =>
    cases k with
    | place p h =>
      rw [after_place, valid_withRobot_iff] at invalid
      exact .notPlaced invalid
    | move =>
      rw [after_move present, valid_withRobot_iff] at invalid
      exact .notMoved present invalid
    | rotate t =>
      rw [after_rotate present, valid_withRobot_iff] at invalid
      exact absurd ((valid_iff_isFree present).mp valid) invalid
    | placeObject =>
      rw [after_placeObject present] at invalid
      exact absurd (valid_withObstacle_ahead valid present) invalid
    | report =>
      rw [after_report] at invalid
      exact absurd valid invalid
    | map =>
      rw [after_map] at invalid
      exact absurd valid invalid

end Board

namespace Simulator

/-- A line that is a command has its answer and its effect, and any other line has none. -/
inductive LineEffect (s : Simulator) (b : Board) (line : String) (t : Step) : Prop
  | command {k : Command} {output : Option String} {committed : Bool}
      (read : Command.ofLine line = .ok (.ok k)) (report : t.report = .ran k output committed)
      (ok : t.report.outcome.ok = true) (answered : b.Answered s.glyphs k output)
      (effect : b.Effect k committed t.board)
  | failure {e : LineError} (read : Command.ofLine line = .ok (.error e))
      (ok : t.report.outcome.ok = false) (data : t.report.outcome.data = [])
      (unchanged : t.board = b)

variable {s : Simulator} {b : Board} {line : String}

lemma Stepped.lineEffect {t : Step} (h : s.Stepped b line t) (valid : b.Valid) :
    s.LineEffect b line t := by
  cases h with
  | failed read => exact .failure read rfl rfl rfl
  | committed read answered candidate =>
    exact .command read rfl rfl (Board.answered_of_answer answered) (Board.effect_of_valid candidate)
  | rejected read answered invalid =>
    exact .command read rfl rfl (Board.answered_of_answer answered)
      (Board.effect_of_invalid valid invalid)

/-- On a valid board every line does what it says, unless it stops the run. -/
theorem line_effect_iff (s : Simulator) (b : Board) (valid : b.Valid) (line : String) :
    (∃ t, s.step b line = .ok t ∧ s.LineEffect b line t) ↔ ¬ b.StoppedBy line := by
  rw [← step_eq_ok_iff_not_stoppedBy (s := s)]
  constructor
  · intro given
    obtain ⟨t, step, -⟩ := given
    exact ⟨t, step⟩
  · intro given
    obtain ⟨t, step⟩ := given
    exact ⟨t, step, (step_eq_ok_iff.mp step).lineEffect valid⟩

/-- An object is put over the edge, and the robot does not step where another one is. -/
theorem line_effect_at_edge :
    let s : Simulator := ⟨.standard, .standard⟩
    let b : Board := ⟨.between ⟨0, 0⟩ ⟨4, 4⟩, some ⟨⟨4, 1⟩, .east⟩, .empty⟩
    let c : Board := ⟨.between ⟨0, 0⟩ ⟨4, 4⟩, some ⟨⟨3, 1⟩, .east⟩, .ofList [⟨4, 1⟩]⟩
    b.Valid ∧ c.Valid ∧ ¬ b.StoppedBy "Place_Object" ∧ ¬ c.StoppedBy "move" ∧
      (∃ t, s.step b "Place_Object" = .ok t ∧ s.LineEffect b "Place_Object" t) ∧
      ∃ t, s.step c "move" = .ok t ∧ s.LineEffect c "move" t := by
  intro s b c
  have edge : ¬ b.StoppedBy "Place_Object" :=
    (step_eq_ok_iff_not_stoppedBy (s := s)).mp ⟨_, rfl⟩
  have against : ¬ c.StoppedBy "move" := (step_eq_ok_iff_not_stoppedBy (s := s)).mp ⟨_, rfl⟩
  have valid : b.Valid := by decide
  have valid' : c.Valid := by decide
  exact ⟨valid, valid', edge, against, (line_effect_iff s b valid _).mpr edge,
    (line_effect_iff s c valid' _).mpr against⟩

/-- A robot may stand in the corner that an empty board reaches to. -/
lemma valid_emptyTo_withRobot (c : Cell) (h : Heading) :
    ((Board.emptyTo c).withRobot (some ⟨c, h⟩)).Valid := by
  rw [Board.valid_withRobot_iff]
  refine ⟨?_, CellSet.not_mem_empty c⟩
  simp only [Board.emptyTo, Board.emptyWithin, Box.between, Box.Contains]
  omega

/-- Valid boards do not keep a line from stopping the run: a placement can have a numeral that is too
long, and a robot can stand too far away to be reported. -/
theorem valid_boards_stopped :
    let s : Simulator := ⟨.standard, .standard⟩
    let long := "PLACE " ++ String.ofList (List.replicate 4301 '1') ++ ",0,NORTH"
    let far : Cell := ⟨-(10 ^ Decimal.digitLimit : Nat), 0⟩
    let b : Board := (Board.emptyTo far).withRobot (some ⟨far, .west⟩)
    s.initialBoard.Valid ∧ (¬ ∃ t, s.step s.initialBoard long = .ok t) ∧
      b.Valid ∧ Command.ofLine "REPORT" = .ok (.ok .report) ∧
      ¬ ∃ t, s.step b "REPORT" = .ok t := by
  intro s long far b
  have digits : Decimal.IsDigits (List.replicate 4301 '1') := by
    refine ⟨List.cons_ne_nil _ _, fun c hc => ?_⟩
    rw [List.eq_of_mem_replicate hc]
    decide
  have overlong : Command.IsOverlong long.toList :=
    isOverlong_of_column digits (by rw [List.length_replicate]; decide)
  have asked : LetterCase.SameLetters "REPORT".toList "report".toList := by decide
  have remote : far.IsRemote :=
    .inl (Nat.le_of_eq (by rw [Int.natAbs_neg, Int.natAbs_natCast]))
  refine ⟨Board.valid_of_absent rfl, ?_, valid_emptyTo_withRobot far .west,
    Command.ofLine_eq_report_iff.mpr asked, ?_⟩
  · exact fun h => step_eq_ok_iff_not_stoppedBy.mp h (.inl overlong)
  · exact fun h => step_eq_ok_iff_not_stoppedBy.mp h (.inr ⟨asked, _, rfl, remote⟩)

end Simulator
end GridRobot
