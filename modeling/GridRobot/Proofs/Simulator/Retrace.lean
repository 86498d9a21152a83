import GridRobot.Proofs.Board.Update
import GridRobot.Proofs.Simulator.Composition
import GridRobot.Proofs.Simulator.Journal
import Mathlib.Data.List.Forall2
import Mathlib.Tactic.Lemma

/-! A drive can be taken back: after the commands that were carried out, their inverses in the opposite
order lead to the board the drive began on, past the same obstacles and with none of them refused. -/
namespace GridRobot

namespace Heading

/-- The heading after half a turn. -/
def reversed (h : Heading) : Heading := (h.turned .right).turned .right

@[simp] lemma reversed_reversed (h : Heading) : h.reversed.reversed = h := by cases h <;> rfl

end Heading

lemma Cell.neighbour_reversed (c : Cell) (h : Heading) :
    (c.neighbour h).neighbour h.reversed = c := by
  cases h <;> ext <;> simp only [neighbour, Heading.reversed, Heading.turned, Heading.dx,
    Heading.dy] <;> omega

namespace Command

/-- Steps and turns. -/
inductive IsDrive : Command → Prop
  | move : IsDrive .move
  | rotate (t : Turn) : IsDrive (.rotate t)

/-- The commands that take back a step or a turn; nothing else is taken back. -/
def inverse : Command → List Command
  | .move => [.rotate .right, .rotate .right, .move, .rotate .right, .rotate .right]
  | .rotate t => [.rotate t.opposite]
  | _ => []

/-- The commands that take back a drive, its last command first. -/
def retraced (ks : List Command) : List Command := ks.reverse.flatMap inverse

lemma retraced_cons (k : Command) (ks : List Command) :
    retraced (k :: ks) = retraced ks ++ k.inverse := by
  rw [retraced, List.reverse_cons, List.flatMap_append, List.flatMap_singleton, retraced]

lemma IsDrive.of_mem_inverse {j k : Command} (drive : k.IsDrive) (hj : j ∈ k.inverse) :
    j.IsDrive := by
  cases drive with
  | move =>
    simp only [inverse, List.mem_cons, List.not_mem_nil, or_false] at hj
    rcases hj with rfl | rfl | rfl | rfl | rfl
    · exact .rotate _
    · exact .rotate _
    · exact .move
    · exact .rotate _
    · exact .rotate _
  | rotate t =>
    obtain rfl := List.mem_singleton.mp hj
    exact .rotate _

lemma isDrive_of_mem_retraced {ks : List Command} (drive : ∀ k ∈ ks, k.IsDrive) :
    ∀ k ∈ retraced ks, k.IsDrive := by
  intro j hj
  obtain ⟨k, hk, inside⟩ := List.mem_flatMap.mp hj
  exact (drive k (List.mem_reverse.mp hk)).of_mem_inverse inside

/-- Each line is read as its command. -/
def ReadAs (lines : List String) (ks : List Command) : Prop :=
  List.Forall₂ (fun line k => ofLine line = .ok (.ok k)) lines ks

lemma readAs_iff {lines : List String} {ks : List Command} :
    ReadAs lines ks ↔ lines.map ofLine = ks.map fun k => .ok (.ok k) := by
  rw [ReadAs, ← List.forall₂_eq_eq_eq, List.forall₂_map_left_iff, List.forall₂_map_right_iff]

end Command

namespace Board

variable {b c d : Board} {p : Cell} {k : Command} {ks js : List Command}

/-- The commands are all carried out, one after the other, and lead from one board to another. -/
inductive Leads : Board → List Command → Board → Prop
  | stays (b : Board) : Leads b [] b
  | goes {b c : Board} {k : Command} {ks : List Command} (valid : (b.after k).Valid)
      (rest : Leads (b.after k) ks c) : Leads b (k :: ks) c

lemma Leads.trans (first : b.Leads ks c) (second : c.Leads js d) : b.Leads (ks ++ js) d := by
  induction first with
  | stays b => exact second
  | goes valid rest ih => exact .goes valid (ih second)

/-- A turn never leaves the cell, so that it can always be carried out. -/
lemma leads_turn (free : b.IsFree p) (h : Heading) (t : Turn) :
    (b.withRobot (some ⟨p, h⟩)).Leads [.rotate t] (b.withRobot (some ⟨p, h.turned t⟩)) := by
  have turned := after_rotate (b := b.withRobot (some ⟨p, h⟩)) rfl t
  refine .goes ?_ (turned ▸ .stays _)
  rw [turned]
  exact valid_withRobot_iff.mpr free

lemma leads_halfTurn (free : b.IsFree p) (h : Heading) :
    (b.withRobot (some ⟨p, h⟩)).Leads [.rotate .right, .rotate .right]
      (b.withRobot (some ⟨p, h.reversed⟩)) :=
  (leads_turn free h .right).trans (leads_turn free (h.turned .right) .right)

lemma leads_step {h : Heading} (free : b.IsFree (p.neighbour h)) :
    (b.withRobot (some ⟨p, h⟩)).Leads [.move] (b.withRobot (some ⟨p.neighbour h, h⟩)) := by
  have moved := after_move (b := b.withRobot (some ⟨p, h⟩)) rfl
  refine .goes ?_ (moved ▸ .stays _)
  rw [moved]
  exact valid_withRobot_iff.mpr free

/-- A robot that stepped from a free cell gets back there, facing the same way as before. -/
lemma leads_stepBack {h : Heading} (free : b.IsFree p) (ahead : b.IsFree (p.neighbour h)) :
    (b.withRobot (some ⟨p.neighbour h, h⟩)).Leads (Command.inverse .move)
      (b.withRobot (some ⟨p, h⟩)) := by
  have home : (p.neighbour h).neighbour h.reversed = p := p.neighbour_reversed h
  have behind : b.IsFree ((p.neighbour h).neighbour h.reversed) := by rwa [home]
  have back := leads_step behind
  have again := leads_halfTurn free h.reversed
  rw [home] at back
  rw [Heading.reversed_reversed] at again
  exact ((leads_halfTurn ahead h).trans back).trans again

/-- Nothing moves on a board without a robot. -/
lemma after_drive_of_absent (absent : b.robot = none) (drive : k.IsDrive) : b.after k = b := by
  refine after_of_absent absent fun p h place => ?_
  cases place ▸ drive

lemma leads_of_absent (absent : b.robot = none) (drive : ∀ k ∈ ks, k.IsDrive) : b.Leads ks b := by
  induction ks with
  | nil => exact .stays b
  | cons k ks ih =>
    have same : b.after k = b := after_drive_of_absent absent (drive k List.mem_cons_self)
    have later := ih fun j hj => drive j (List.mem_cons_of_mem k hj)
    refine .goes ?_ (same.symm ▸ later)
    rw [same]
    exact valid_of_absent absent

/-- The inverse of a command that was carried out can be carried out, and takes it back. -/
theorem leads_inverse (valid : b.Valid) (drive : k.IsDrive) (carried : (b.after k).Valid) :
    (b.after k).Leads k.inverse b := by
  cases present : b.robot with
  | none =>
    rw [after_drive_of_absent present drive]
    exact leads_of_absent present fun j hj => drive.of_mem_inverse hj
  | some r =>
    have free := (valid_iff_isFree present).mp valid
    cases drive with
    | move =>
      rw [after_move present] at carried ⊢
      have back := leads_stepBack free (valid_withRobot_iff.mp carried)
      rwa [withRobot_self present] at back
    | rotate t =>
      have back := leads_turn free (r.heading.turned t) t.opposite
      rw [Heading.turned_opposite, withRobot_self present] at back
      rwa [after_rotate present]

/-- What leads from a valid board to another is taken back by what leads from there to the first. -/
theorem Leads.retraced (h : b.Leads ks c) (valid : b.Valid) (drive : ∀ k ∈ ks, k.IsDrive) :
    c.Leads (Command.retraced ks) b := by
  induction h with
  | stays b => exact .stays b
  | @goes b c k ks carried rest ih =>
    have later := ih carried fun j hj => drive j (List.mem_cons_of_mem k hj)
    have last := leads_inverse valid (drive k List.mem_cons_self) carried
    rw [Command.retraced_cons]
    exact later.trans last

end Board

/-- Neither a step nor a turn is answered. -/
lemma Command.IsDrive.answer {b : Board} {g : Glyphs} {k : Command} (drive : k.IsDrive) :
    b.answer k g = .ok none := by
  cases drive <;> rfl

namespace Simulator

variable {s : Simulator} {b c : Board} {line : String} {lines : List String} {k : Command}
  {ks : List Command} {reports : List StepReport}

lemma step_of_carried (read : Command.ofLine line = .ok (.ok k)) (drive : k.IsDrive)
    (valid : (b.after k).Valid) : s.step b line = .ok ⟨b.after k, .ran k none true, none⟩ :=
  step_eq_ok_iff.mpr (.committed read drive.answer valid)

lemma step_of_refused (read : Command.ofLine line = .ok (.ok k)) (drive : k.IsDrive)
    (invalid : ¬ (b.after k).Valid) :
    s.step b line = .ok ⟨b, .ran k none false, some (.boardRejected k.kind line)⟩ :=
  step_eq_ok_iff.mpr (.rejected read drive.answer invalid)

/-- Commands that are all carried out are so when they are given as lines. -/
theorem run_of_leads (h : b.Leads ks c) (drive : ∀ k ∈ ks, k.IsDrive)
    (read : Command.ReadAs lines ks) :
    s.replay b lines = .ok c ∧ s.run b lines = .ok (ks.map fun k => .ran k none true) := by
  induction h generalizing lines with
  | stays b =>
    cases read
    exact ⟨rfl, rfl⟩
  | @goes b c k ks valid rest ih =>
    cases read with
    | cons first later =>
      have step := step_of_carried (s := s) first (drive k List.mem_cons_self) valid
      obtain ⟨replayed, ran⟩ := ih (fun j hj => drive j (List.mem_cons_of_mem k hj)) later
      exact ⟨replay_cons_eq_ok_iff.mpr ⟨_, step, replayed⟩,
        run_cons_eq_ok_iff.mpr ⟨_, _, step, ran, rfl⟩⟩

/-- The commands of a drive that were carried out lead to the same board on their own. -/
theorem leads_of_drive (read : Command.ReadAs lines ks) (drive : ∀ k ∈ ks, k.IsDrive) :
    ∃ c reports, s.replay b lines = .ok c ∧ s.run b lines = .ok reports ∧
      b.Leads (reports.filterMap StepReport.committed?) c ∧
      ∀ k ∈ reports.filterMap StepReport.committed?, k.IsDrive := by
  induction read generalizing b with
  | nil => exact ⟨b, [], rfl, rfl, .stays b, by simp⟩
  | @cons line k lines ks first later ih =>
    have here := drive k List.mem_cons_self
    have rest : ∀ j ∈ ks, j.IsDrive := fun j hj => drive j (List.mem_cons_of_mem k hj)
    by_cases valid : (b.after k).Valid
    · have step := step_of_carried (s := s) first here valid
      obtain ⟨c, reports, replayed, ran, leads, drives⟩ := ih (b := b.after k) rest
      exact ⟨c, .ran k none true :: reports, replay_cons_eq_ok_iff.mpr ⟨_, step, replayed⟩,
        run_cons_eq_ok_iff.mpr ⟨_, reports, step, ran, rfl⟩, .goes valid leads,
        List.forall_mem_cons.mpr ⟨here, drives⟩⟩
    · have step := step_of_refused (s := s) first here valid
      obtain ⟨c, reports, replayed, ran, leads, drives⟩ := ih (b := b) rest
      exact ⟨c, .ran k none false :: reports, replay_cons_eq_ok_iff.mpr ⟨_, step, replayed⟩,
        run_cons_eq_ok_iff.mpr ⟨_, reports, step, ran, rfl⟩, leads, drives⟩

/-- Whatever drive is tried on a valid board, lines that take back what was carried out of it, the last
command first, lead back to that board, and not one of them is refused. -/
theorem drive_retraced (s : Simulator) (b : Board) (valid : b.Valid) (lines : List String)
    (ks : List Command) (read : Command.ReadAs lines ks) (drive : ∀ k ∈ ks, k.IsDrive) :
    ∃ reports, s.run b lines = .ok reports ∧
      ∀ back, Command.ReadAs back (Command.retraced (reports.filterMap StepReport.committed?)) →
        s.replay b (lines ++ back) = .ok b ∧
        ∃ returns, s.run b (lines ++ back) = .ok (reports ++ returns) ∧
          returns.length = back.length ∧ ∀ r ∈ returns, r.committed?.isSome := by
  obtain ⟨c, reports, replayed, ran, leads, drives⟩ := leads_of_drive (s := s) (b := b) read drive
  refine ⟨reports, ran, fun back readBack => ?_⟩
  have home := leads.retraced valid drives
  obtain ⟨returned, ranBack⟩ := run_of_leads (s := s) home (Command.isDrive_of_mem_retraced drives)
    readBack
  refine ⟨replay_append_eq_ok_iff.mpr ⟨c, replayed, returned⟩, _,
    run_append replayed ran ranBack, length_of_run ranBack, ?_⟩
  intro r hr
  obtain ⟨k, -, rfl⟩ := List.mem_map.mp hr
  rfl

/-- The first step is held up by an obstacle and the last one by the edge. -/
theorem drive_retraced_past_obstacle :
    let s : Simulator := ⟨.standard, .standard⟩
    let b : Board := ⟨.between ⟨0, 0⟩ ⟨1, 2⟩, some ⟨⟨0, 0⟩, .north⟩, .ofList [⟨0, 1⟩, ⟨5, 5⟩]⟩
    let lines := ["move", "RIGHT", "Move", "left", "move", "move", "move"]
    let ks : List Command := [.move, .rotate .right, .move, .rotate .left, .move, .move, .move]
    let reports : List StepReport := [.ran .move none false, .ran (.rotate .right) none true,
      .ran .move none true, .ran (.rotate .left) none true, .ran .move none true,
      .ran .move none true, .ran .move none false]
    let stepBack := ["RIGHT", "RIGHT", "MOVE", "RIGHT", "RIGHT"]
    let back := stepBack ++ stepBack ++ ["RIGHT"] ++ stepBack ++ ["LEFT"]
    b.Valid ∧ Command.ReadAs lines ks ∧ (∀ k ∈ ks, k.IsDrive) ∧ s.run b lines = .ok reports ∧
      Command.ReadAs back (Command.retraced (reports.filterMap StepReport.committed?)) ∧
      s.replay b (lines ++ back) = .ok b ∧
      ∃ returns, s.run b (lines ++ back) = .ok (reports ++ returns) ∧
        returns.length = back.length ∧ ∀ r ∈ returns, r.committed?.isSome := by
  intro s b lines ks reports stepBack back
  have valid : b.Valid := by decide
  have read : Command.ReadAs lines ks := Command.readAs_iff.mpr rfl
  have drive : ∀ k ∈ ks, k.IsDrive := by
    simp only [ks, List.forall_mem_cons]
    exact ⟨.move, .rotate _, .move, .rotate _, .move, .move, .move, nofun⟩
  have ran : s.run b lines = .ok reports := rfl
  have readBack : Command.ReadAs back
      (Command.retraced (reports.filterMap StepReport.committed?)) := Command.readAs_iff.mpr rfl
  obtain ⟨told, run, home⟩ := drive_retraced s b valid lines ks read drive
  obtain rfl : reports = told := Except.ok.inj (ran.symm.trans run)
  exact ⟨valid, read, drive, ran, readBack, home back readBack⟩

end Simulator
end GridRobot
