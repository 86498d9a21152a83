import GridRobot.Proofs.Simulator.Advance
import GridRobot.Proofs.Simulator.Safety
import Mathlib.Tactic.Lemma

/-! On a board without obstacles a robot can be driven from any pose to any other. Hence lines lead a
robot to every pose on the board, however far away it is, and to none outside. -/
namespace GridRobot

/-- Every heading is at most two quarter turns away. -/
lemma Heading.eq_turned (h d : Heading) :
    d = h ∨ d = h.turned .left ∨ d = h.turned .right ∨ d = h.reversed := by
  cases h <;> cases d <;> decide

namespace Cell

/-- Any column is reached along the row of a cell. -/
lemma exists_along_row (p : Cell) (x : Int) : ∃ h n, p.along h n = ⟨x, p.y⟩ := by
  rcases Int.le_total p.x x with east | west
  · refine ⟨.east, (x - p.x).toNat, ?_⟩
    ext <;> simp only [along, Heading.dx, Heading.dy] <;> omega
  · refine ⟨.west, (p.x - x).toNat, ?_⟩
    ext <;> simp only [along, Heading.dx, Heading.dy] <;> omega

/-- Any row is reached along the column of a cell. -/
lemma exists_along_column (p : Cell) (y : Int) : ∃ h n, p.along h n = ⟨p.x, y⟩ := by
  rcases Int.le_total p.y y with north | south
  · refine ⟨.north, (y - p.y).toNat, ?_⟩
    ext <;> simp only [along, Heading.dx, Heading.dy] <;> omega
  · refine ⟨.south, (p.y - y).toNat, ?_⟩
    ext <;> simp only [along, Heading.dx, Heading.dy] <;> omega

end Cell

/-- A box has no gap between two of its cells on a line. -/
lemma Box.contains_along {b : Box} {p : Cell} {h : Heading} {i n : Nat} (start : b.Contains p)
    (stop : b.Contains (p.along h n)) (between : i ≤ n) : b.Contains (p.along h i) := by
  cases h <;> simp only [Contains, Cell.along, Heading.dx, Heading.dy] at * <;> omega

namespace Command

lemma IsDrive.exists_line {k : Command} (drive : k.IsDrive) :
    ∃ line, ofLine line = .ok (.ok k) := by
  cases drive with
  | move => exact ⟨"move", Keyword.move.ofLineChars_iff.mpr rfl⟩
  | rotate t =>
    cases t with
    | left => exact ⟨"left", Keyword.left.ofLineChars_iff.mpr rfl⟩
    | right => exact ⟨"right", Keyword.right.ofLineChars_iff.mpr rfl⟩

/-- Every drive can be written down in lines. -/
lemma exists_readAs {ks : List Command} (drive : ∀ k ∈ ks, k.IsDrive) :
    ∃ lines, ReadAs lines ks := by
  induction ks with
  | nil => exact ⟨[], .nil⟩
  | cons k ks ih =>
    obtain ⟨here, rest⟩ := List.forall_mem_cons.mp drive
    obtain ⟨line, read⟩ := here.exists_line
    obtain ⟨lines, later⟩ := ih rest
    exact ⟨line :: lines, .cons read later⟩

end Command

namespace Board

variable {b : Board} {p q : Cell} {h d : Heading}

/-- A drive takes the robot from one pose to another, and nothing of it is refused. -/
def Connects (b : Board) (r t : Robot) : Prop :=
  ∃ ks, (∀ k ∈ ks, k.IsDrive) ∧ (b.withRobot (some r)).Leads ks (b.withRobot (some t))

lemma Connects.refl (b : Board) (r : Robot) : b.Connects r r :=
  ⟨[], by simp, .stays _⟩

lemma Connects.trans {r t u : Robot} (first : b.Connects r t) (second : b.Connects t u) :
    b.Connects r u := by
  obtain ⟨ks, drive, leads⟩ := first
  obtain ⟨js, drive', leads'⟩ := second
  refine ⟨ks ++ js, fun k hk => ?_, leads.trans leads'⟩
  rcases List.mem_append.mp hk with hk | hk
  · exact drive k hk
  · exact drive' k hk

lemma connects_turn (free : b.IsFree p) (h : Heading) (t : Turn) :
    b.Connects ⟨p, h⟩ ⟨p, h.turned t⟩ :=
  ⟨[.rotate t], List.forall_mem_singleton.mpr (.rotate t), leads_turn free h t⟩

lemma connects_heading (free : b.IsFree p) (h d : Heading) : b.Connects ⟨p, h⟩ ⟨p, d⟩ := by
  rcases h.eq_turned d with rfl | rfl | rfl | rfl
  · exact .refl b _
  · exact connects_turn free h .left
  · exact connects_turn free h .right
  · exact (connects_turn free h .right).trans (connects_turn free (h.turned .right) .right)

/-- On a board that has no obstacles a robot gets to every cell on a line with its own. -/
lemma connects_straight (bare : ∀ c, c ∉ b.obstacles) (start : b.bounds.Contains p)
    (stop : b.bounds.Contains q) {n : Nat} (line : p.along d n = q) :
    b.Connects ⟨p, h⟩ ⟨q, d⟩ := by
  subst line
  have clear : b.ClearAhead p d n :=
    fun i _ high => ⟨Box.contains_along start stop high, bare _⟩
  have ahead : b.Connects ⟨p, d⟩ ⟨p.along d n, d⟩ :=
    ⟨_, Command.isDrive_of_mem_replicate .move, leads_steps clear⟩
  exact (connects_heading ⟨start, bare p⟩ h d).trans ahead

/-- Two lines, one along a row and one along a column, connect any two cells. -/
theorem connects_inside (bare : ∀ c, c ∉ b.obstacles) (start : b.bounds.Contains p)
    (stop : b.bounds.Contains q) : b.Connects ⟨p, h⟩ ⟨q, d⟩ := by
  have corner : b.bounds.Contains ⟨q.x, p.y⟩ := ⟨stop.1, start.2⟩
  obtain ⟨e, n, row⟩ := p.exists_along_row q.x
  obtain ⟨e', m, column⟩ := Cell.exists_along_column ⟨q.x, p.y⟩ q.y
  have first : b.Connects ⟨p, h⟩ ⟨⟨q.x, p.y⟩, e⟩ := connects_straight bare start corner row
  have second : b.Connects ⟨⟨q.x, p.y⟩, e⟩ ⟨q, e'⟩ := connects_straight bare corner stop column
  exact (first.trans second).trans (connects_heading ⟨stop, bare q⟩ e' d)

end Board

namespace Simulator

variable {s : Simulator}

lemma contains_origin (s : Simulator) : s.initialBoard.bounds.Contains .origin := by
  have width := s.size.width.property
  have height := s.size.height.property
  simp only [contains_initialBoard_iff, Cell.origin]
  omega

/-- A robot is placed in the corner at the origin, which every board has. -/
lemma step_place_origin : s.step s.initialBoard "PLACE 0,0,EAST" =
    .ok ⟨s.initialBoard.withRobot (some ⟨.origin, .east⟩), .ran (.place .origin .east) none true,
      none⟩ := by
  have read : Command.ofLine "PLACE 0,0,EAST" = .ok (.ok (.place .origin .east)) := rfl
  exact step_of_free read ⟨s.contains_origin, CellSet.not_mem_empty _⟩

/-- Lines lead a robot, with no obstacle left on the board, to the poses inside the bounds and to no
others, also where the place is out of range for a placement. -/
theorem reaches_pose_iff (s : Simulator) (v : Cell) (d : Heading) :
    (∃ lines b, s.replay s.initialBoard lines = .ok b ∧ b.robot = some ⟨v, d⟩ ∧
        ∀ c, c ∉ b.obstacles) ↔
      (0 ≤ v.x ∧ v.x < s.size.width.val) ∧ 0 ≤ v.y ∧ v.y < s.size.height.val := by
  rw [← contains_initialBoard_iff]
  constructor
  · intro given
    obtain ⟨lines, b, replayed, present, -⟩ := given
    obtain ⟨valid, kept⟩ := replay_keeps s.initialBoard_valid replayed
    rw [← kept.bounds]
    exact (valid _ present).1
  · intro inside
    have bare : ∀ c, c ∉ s.initialBoard.obstacles := CellSet.not_mem_empty
    obtain ⟨ks, drive, leads⟩ : s.initialBoard.Connects ⟨.origin, .east⟩ ⟨v, d⟩ :=
      Board.connects_inside bare s.contains_origin inside
    obtain ⟨lines, read⟩ := Command.exists_readAs drive
    have replayed := (run_of_leads (s := s) leads drive read).1
    exact ⟨"PLACE 0,0,EAST" :: lines, _,
      replay_cons_eq_ok_iff.mpr ⟨_, step_place_origin, replayed⟩, rfl, bare⟩

end Simulator
end GridRobot
