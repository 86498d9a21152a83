import GridRobot.Proofs.Simulator.Step
import Mathlib.Tactic.Lemma

/-! A run keeps its bounds and never lets the robot stand outside them or on an obstacle; obstacles
and the robot stay on the board once they are there. -/
namespace GridRobot

/-- What a later board keeps of an earlier one. -/
structure Board.Precedes (b c : Board) : Prop where
  bounds : c.bounds = b.bounds
  obstacles : ∀ p ∈ b.obstacles, p ∈ c.obstacles
  robot : b.robot.isSome → c.robot.isSome

namespace Board

theorem Precedes.refl (b : Board) : b.Precedes b := ⟨rfl, fun _ h => h, fun h => h⟩

theorem Precedes.trans {b c d : Board} (hbc : b.Precedes c) (hcd : c.Precedes d) :
    b.Precedes d where
  bounds := hcd.bounds.trans hbc.bounds
  obstacles p hp := hcd.obstacles p (hbc.obstacles p hp)
  robot h := hcd.robot (hbc.robot h)

/-- No command, whether it is carried out or not, would take anything off the board. -/
theorem precedes_after (b : Board) (k : Command) : b.Precedes (b.after k) := by
  cases hr : b.robot with
  | none =>
    cases k with
    | place p h => exact ⟨rfl, fun _ hp => hp, fun _ => rfl⟩
    | move | rotate | report | placeObject | map =>
      simp only [after, hr]
      exact .refl b
  | some r =>
    cases k with
    | place p h => exact ⟨rfl, fun _ hp => hp, fun _ => rfl⟩
    | move | rotate =>
      simp only [after, hr]
      exact ⟨rfl, fun _ hp => hp, fun _ => rfl⟩
    | report | map =>
      simp only [after, hr]
      exact .refl b
    | placeObject =>
      simp only [after, hr]
      refine ⟨rfl, fun p hp => ?_, fun h => h⟩
      exact CellSet.mem_insert.mpr (.inr hp)

theorem emptyOfSize_valid (width height : Int) : (emptyOfSize width height).Valid := by
  intro r hr
  simp [emptyOfSize, emptyTo, emptyWithin] at hr

/-- A cell that was an obstacle earlier is not where the robot stands later. -/
theorem Precedes.location_ne {b c : Board} (h : b.Precedes c) (valid : c.Valid) {p : Cell}
    (hp : p ∈ b.obstacles) {r : Robot} (hr : r ∈ c.robot) : r.location ≠ p := by
  rintro rfl
  exact (valid r hr).2 (h.obstacles _ hp)

end Board

namespace Simulator

variable {s : Simulator} {b c : Board} {line : String} {lines : List String}

/-- Only a valid candidate becomes the next board. -/
theorem Stepped.keeps {t : Step} (h : s.Stepped b line t) (valid : b.Valid) :
    t.board.Valid ∧ b.Precedes t.board := by
  cases h with
  | failed read => exact ⟨valid, .refl b⟩
  | committed read answered candidate => exact ⟨candidate, b.precedes_after _⟩
  | rejected read answered invalid => exact ⟨valid, .refl b⟩

theorem replay_keeps (valid : b.Valid) (h : s.replay b lines = .ok c) :
    c.Valid ∧ b.Precedes c := by
  induction lines generalizing b with
  | nil =>
    cases h
    exact ⟨valid, .refl _⟩
  | cons line lines ih =>
    obtain ⟨t, step, rest⟩ := replay_cons_eq_ok_iff.mp h
    obtain ⟨next, first⟩ := (step_eq_ok_iff.mp step).keeps valid
    obtain ⟨last, second⟩ := ih next rest
    exact ⟨last, first.trans second⟩

/-- A run that completes has a board at every moment. -/
theorem Completes.exists_replay {p : List String} (h : s.Completes b lines) (hp : p <+: lines) :
    ∃ c, s.replay b p = .ok c := by
  obtain ⟨rest, rfl⟩ := hp
  obtain ⟨d, replayed⟩ := completes_iff_replay.mp h
  obtain ⟨c, first, _⟩ := replay_append_eq_ok_iff.mp replayed
  exact ⟨c, first⟩

/-- At every moment of a run the robot is where it may be, within bounds with the given corners,
and no later moment takes back what was there. -/
structure SafeRun (s : Simulator) (b : Board) (low high : Cell) (lines : List String) : Prop where
  moment : ∀ p, p <+: lines →
    ∃ c, s.replay b p = .ok c ∧ c.bounds.low = low ∧ c.bounds.high = high ∧ c.Valid
  later : ∀ p q, p <+: q → q <+: lines → ∀ c d, s.replay b p = .ok c → s.replay b q = .ok d →
    (∀ v ∈ c.obstacles, v ∈ d.obstacles) ∧ (c.robot.isSome → d.robot.isSome) ∧
      ∀ v ∈ c.obstacles, ∀ r ∈ d.robot, r.location ≠ v

theorem safeRun_of_valid (valid : b.Valid) (h : s.Completes b lines) :
    s.SafeRun b b.bounds.low b.bounds.high lines where
  moment p hp := by
    obtain ⟨c, replayed⟩ := h.exists_replay hp
    obtain ⟨last, kept⟩ := replay_keeps valid replayed
    exact ⟨c, replayed, by rw [kept.bounds], by rw [kept.bounds], last⟩
  later p q hpq _ c d hc hd := by
    obtain ⟨rest, rfl⟩ := hpq
    obtain ⟨m, first, second⟩ := replay_append_eq_ok_iff.mp hd
    have hm : m = c := Except.ok.inj (first.symm.trans hc)
    subst hm
    obtain ⟨last, kept⟩ := replay_keeps (replay_keeps valid hc).1 second
    exact ⟨kept.obstacles, kept.robot, fun v hv r hr => kept.location_ne last hv hr⟩

lemma initialBoard_valid (s : Simulator) : s.initialBoard.Valid := Board.emptyOfSize_valid _ _

lemma initialBoard_low (s : Simulator) : s.initialBoard.bounds.low = ⟨0, 0⟩ := by
  have hw := s.size.width.property
  have hh := s.size.height.property
  simp only [initialBoard, BoardSize.board, Board.emptyOfSize, Board.emptyTo, Board.emptyWithin,
    Box.between, Cell.origin, Cell.mk.injEq]
  omega

lemma initialBoard_high (s : Simulator) :
    s.initialBoard.bounds.high = ⟨s.size.width.val - 1, s.size.height.val - 1⟩ := by
  have hw := s.size.width.property
  have hh := s.size.height.property
  simp only [initialBoard, BoardSize.board, Board.emptyOfSize, Board.emptyTo, Board.emptyWithin,
    Box.between, Cell.origin, Cell.mk.injEq]
  omega

lemma contains_initialBoard_iff {v : Cell} : s.initialBoard.bounds.Contains v ↔
    (0 ≤ v.x ∧ v.x < s.size.width.val) ∧ 0 ≤ v.y ∧ v.y < s.size.height.val := by
  rw [Box.Contains, initialBoard_low, initialBoard_high]
  simp only
  omega

/-- Every run of a simulator on its own board is safe within the corners of its size, and a run on
any other valid board within the bounds of that board. -/
theorem completed_run_safe (s : Simulator) (lines : List String) :
    (s.Completes s.initialBoard lines →
      s.SafeRun s.initialBoard ⟨0, 0⟩ ⟨s.size.width.val - 1, s.size.height.val - 1⟩ lines) ∧
    ∀ b : Board, b.Valid → s.Completes b lines →
      s.SafeRun b b.bounds.low b.bounds.high lines := by
  constructor
  · intro h
    rw [← initialBoard_low s, ← initialBoard_high s]
    exact safeRun_of_valid (Board.emptyOfSize_valid _ _) h
  · intro b valid h
    exact safeRun_of_valid valid h

/-- A robot walks against its own obstacle and past a line that is no command, once on the standard
board and once on a small board that holds a robot and an obstacle from the start. -/
theorem completed_run_safe_against_obstacle :
    let s : Simulator := ⟨.standard, .standard⟩
    let b : Board := ⟨.between ⟨-1, -1⟩ ⟨1, 1⟩, some ⟨⟨0, 0⟩, .east⟩, .ofList [⟨1, 0⟩]⟩
    let lines := ["move", "PLACE 1,1,north", "place_object", "MOVE", "jump", "Left", "move", "map"]
    s.Completes s.initialBoard lines ∧ b.Valid ∧ s.Completes b lines ∧
      s.SafeRun s.initialBoard ⟨0, 0⟩ ⟨4, 4⟩ lines ∧ s.SafeRun b ⟨-1, -1⟩ ⟨1, 1⟩ lines := by
  intro s b lines
  have own : s.Completes s.initialBoard lines := rfl
  have valid : b.Valid := by decide
  have other : s.Completes b lines := rfl
  have both := completed_run_safe s lines
  exact ⟨own, valid, other, both.1 own, both.2 b valid other⟩

end Simulator
end GridRobot
