import GridRobot.Proofs.Command.Reading
import GridRobot.Proofs.Simulator.Retrace
import Mathlib.Data.Nat.Find
import Mathlib.Order.Bounds.Basic
import Mathlib.Tactic.ByContra
import Mathlib.Tactic.Lemma

/-! A robot that is told to step over and over goes straight on as long as the next cell is free, and
stands still before the first cell that is not. -/
namespace GridRobot

namespace Cell

variable (c : Cell) (h : Heading) (n : Nat)

/-- The cell so many steps away along a heading. -/
def along : Cell := ⟨c.x + n * h.dx, c.y + n * h.dy⟩

@[simp] theorem along_zero : c.along h 0 = c := by
  ext <;> simp [along]

theorem along_succ : c.along h (n + 1) = (c.along h n).neighbour h := by
  cases h <;> ext <;> simp only [along, neighbour, Heading.dx, Heading.dy] <;> omega

end Cell

namespace Command

/-- Lines that are all read as one command. -/
lemma readAs_replicate (lines : List String) {k : Command}
    (read : ∀ line ∈ lines, ofLine line = .ok (.ok k)) :
    ReadAs lines (List.replicate lines.length k) := by
  rw [readAs_iff, List.map_replicate]
  apply List.eq_replicate_iff.mpr
  refine ⟨List.length_map _, fun reading given => ?_⟩
  obtain ⟨line, mem, rfl⟩ := List.mem_map.mp given
  exact read line mem

lemma isDrive_of_mem_replicate {n : Nat} {k : Command} (drive : k.IsDrive) :
    ∀ j ∈ List.replicate n k, j.IsDrive := by
  intro j hj
  rwa [List.eq_of_mem_replicate hj]

end Command

namespace Board

variable {b : Board} {p : Cell} {h : Heading} {k n : Nat}

/-- The next so many cells in front of a robot that stands at a place are all free. -/
def ClearAhead (b : Board) (p : Cell) (h : Heading) (k : Nat) : Prop :=
  ∀ i, 1 ≤ i → i ≤ k → b.IsFree (p.along h i)

lemma clearAhead_zero : b.ClearAhead p h 0 := by
  intro i low high
  omega

lemma ClearAhead.of_succ (clear : b.ClearAhead p h (k + 1)) : b.ClearAhead p h k :=
  fun i low high => clear i low (Nat.le_succ_of_le high)

lemma ClearAhead.succ (clear : b.ClearAhead p h k) (next : b.IsFree (p.along h (k + 1))) :
    b.ClearAhead p h (k + 1) := by
  intro i low high
  rcases Nat.le_succ_iff.mp high with before | rfl
  · exact clear i low before
  · exact next

lemma exists_greatest_clearAhead (b : Board) (p : Cell) (h : Heading) (n : Nat) :
    ∃ k, IsGreatest {k | k ≤ n ∧ b.ClearAhead p h k} k := by
  classical
  refine ⟨Nat.findGreatest (b.ClearAhead p h) n, ⟨Nat.findGreatest_le n, ?_⟩, ?_⟩
  · exact Nat.findGreatest_spec (Nat.zero_le n) clearAhead_zero
  · intro m given
    exact Nat.le_findGreatest given.1 given.2

/-- What is clear cannot be made longer, unless it is as long as was asked for. -/
lemma not_isFree_of_greatest (greatest : IsGreatest {k | k ≤ n ∧ b.ClearAhead p h k} k)
    (short : k < n) : ¬ b.IsFree ((p.along h k).neighbour h) := by
  intro free
  rw [← Cell.along_succ] at free
  have longer : k + 1 ≤ k := greatest.2 ⟨short, greatest.1.2.succ free⟩
  omega

/-- As many steps as there are free cells in front are all carried out. -/
theorem leads_steps (clear : b.ClearAhead p h k) :
    (b.withRobot (some ⟨p, h⟩)).Leads (List.replicate k .move)
      (b.withRobot (some ⟨p.along h k, h⟩)) := by
  induction k with
  | zero =>
    rw [Cell.along_zero]
    exact .stays _
  | succ k ih =>
    have free : b.IsFree ((p.along h k).neighbour h) := by
      rw [← Cell.along_succ]
      exact clear (k + 1) (by omega) (Nat.le_refl _)
    rw [List.replicate_succ', Cell.along_succ]
    exact (ih clear.of_succ).trans (leads_step free)

end Board

namespace Simulator

variable {s : Simulator} {b : Board} {lines : List String} {ks : List Command}

/-- Commands that are refused on a board are refused there one after the other. -/
theorem run_of_refused (drive : ∀ k ∈ ks, k.IsDrive) (refused : ∀ k ∈ ks, ¬ (b.after k).Valid)
    (read : Command.ReadAs lines ks) :
    s.replay b lines = .ok b ∧ s.run b lines = .ok (ks.map fun k => .ran k none false) := by
  induction read with
  | nil => exact ⟨rfl, rfl⟩
  | @cons line k lines ks first later ih =>
    obtain ⟨here, drives⟩ := List.forall_mem_cons.mp drive
    obtain ⟨invalid, others⟩ := List.forall_mem_cons.mp refused
    have step := step_of_refused (s := s) first here invalid
    obtain ⟨replayed, ran⟩ := ih drives others
    exact ⟨replay_cons_eq_ok_iff.mpr ⟨_, step, replayed⟩,
      run_cons_eq_ok_iff.mpr ⟨_, _, step, ran, rfl⟩⟩

/-- However often the robot is told to step, it goes as far as the cells in front of it are free, with
its heading and all else on the board as before. The steps up to there are carried out, and no later
one is. -/
theorem steps_up_to_first_taken (s : Simulator) (b : Board) (p : Cell) (h : Heading)
    (present : b.robot = some ⟨p, h⟩) (lines : List String)
    (moves : ∀ line ∈ lines, LetterCase.SameLetters line.toList "move".toList) :
    ∃ k, IsGreatest {k | k ≤ lines.length ∧ b.ClearAhead p h k} k ∧
      s.replay b lines = .ok { b with robot := some ⟨p.along h k, h⟩ } ∧
      s.run b lines = .ok (List.replicate k (.ran .move none true) ++
        List.replicate (lines.length - k) (.ran .move none false)) := by
  obtain ⟨k, greatest⟩ := b.exists_greatest_clearAhead p h lines.length
  obtain ⟨bound, clear⟩ := greatest.1
  have read : ∀ line ∈ lines, Command.ofLine line = .ok (.ok .move) :=
    fun line mem => Command.Keyword.move.ofLineChars_iff.mpr (moves line mem)
  -- The lines are cut where the clear cells end.
  have first := Command.readAs_replicate (lines.take k)
    fun line mem => read line (List.mem_of_mem_take mem)
  have later := Command.readAs_replicate (lines.drop k)
    fun line mem => read line (List.mem_of_mem_drop mem)
  rw [List.length_take_of_le bound] at first
  rw [List.length_drop] at later
  obtain ⟨replayed, ran⟩ := run_of_leads (s := s) (Board.leads_steps clear)
    (Command.isDrive_of_mem_replicate .move) first
  rw [Board.withRobot_self present] at replayed ran
  have refused : ∀ j ∈ List.replicate (lines.length - k) Command.move,
      ¬ ((b.withRobot (some ⟨p.along h k, h⟩)).after j).Valid := by
    intro j hj
    obtain ⟨left, rfl⟩ := List.mem_replicate.mp hj
    rw [Board.after_move rfl, Board.valid_withRobot_iff]
    exact Board.not_isFree_of_greatest greatest (by omega)
  obtain ⟨stays, ran'⟩ := run_of_refused (s := s) (Command.isDrive_of_mem_replicate .move)
    refused later
  have whole := run_append replayed ran ran'
  rw [List.take_append_drop, List.map_replicate, List.map_replicate] at whole
  have last := replay_append_eq_ok_iff.mpr ⟨_, replayed, stays⟩
  rw [List.take_append_drop] at last
  exact ⟨k, greatest, last, whole⟩

/-- Two cells are free before the obstacle, and the free one behind it does not count. -/
theorem steps_up_to_obstacle :
    let s : Simulator := ⟨.standard, .standard⟩
    let b : Board := ⟨.between ⟨-2, -1⟩ ⟨2, 1⟩, some ⟨⟨-2, 0⟩, .east⟩, .ofList [⟨1, 0⟩]⟩
    let lines := ["MOVE", "move", "Move", "mOVE", "MOVE"]
    b.robot = some ⟨⟨-2, 0⟩, .east⟩ ∧
      (∀ line ∈ lines, LetterCase.SameLetters line.toList "move".toList) ∧
      IsGreatest {k | k ≤ lines.length ∧ b.ClearAhead ⟨-2, 0⟩ .east k} 2 ∧
      s.replay b lines = .ok { b with robot := some ⟨⟨0, 0⟩, .east⟩ } ∧
      s.run b lines = .ok (List.replicate 2 (.ran .move none true) ++
        List.replicate 3 (.ran .move none false)) := by
  intro s b lines
  have moves : ∀ line ∈ lines, LetterCase.SameLetters line.toList "move".toList := by decide
  have two : IsGreatest {k | k ≤ lines.length ∧ b.ClearAhead ⟨-2, 0⟩ .east k} 2 := by
    refine ⟨⟨by decide, fun i low high => ?_⟩, fun m given => ?_⟩
    · obtain rfl | rfl : i = 1 ∨ i = 2 := by omega
      · decide
      · decide
    · by_contra beyond
      have free := given.2 3 (by omega) (by omega)
      exact absurd free (by decide)
  obtain ⟨k, greatest, replayed, ran⟩ := steps_up_to_first_taken s b _ _ rfl lines moves
  obtain rfl := greatest.unique two
  exact ⟨rfl, moves, two, replayed, ran⟩

end Simulator
end GridRobot
