import GridRobot.Proofs.Simulator.Retrace
import Mathlib.Tactic.Lemma

/-! Turns add up: a left turn takes back a right one and four of a kind are none, so that a robot faces
where the difference of the two numbers says, whatever the order of the turns. -/
namespace GridRobot

namespace Heading

variable {h : Heading} {m n : Nat}

/-- The heading after so many quarter turns to the right. -/
def turnedRight (h : Heading) : Nat → Heading
  | 0 => h
  | n + 1 => (h.turnedRight n).turned .right

lemma turnedRight_add (h : Heading) (m n : Nat) :
    (h.turnedRight m).turnedRight n = h.turnedRight (m + n) := by
  induction n with
  | zero => rfl
  | succ n ih => rw [turnedRight, ih, ← Nat.add_assoc, turnedRight]

lemma turnedRight_whole (h : Heading) (n : Nat) : h.turnedRight (4 * n) = h := by
  induction n with
  | zero => rfl
  | succ n ih =>
    rw [Nat.mul_succ, ← turnedRight_add, ih]
    cases h <;> rfl

lemma turnedRight_mod (h : Heading) (n : Nat) : h.turnedRight (n % 4) = h.turnedRight n := by
  calc
    h.turnedRight (n % 4) = (h.turnedRight (4 * (n / 4))).turnedRight (n % 4) := by
      rw [turnedRight_whole]
    _ = h.turnedRight n := by rw [turnedRight_add, Nat.div_add_mod]

/-- Numbers of quarter turns come to the same heading exactly if they differ by whole turns. -/
theorem turnedRight_eq_iff : h.turnedRight m = h.turnedRight n ↔ m % 4 = n % 4 := by
  have within : ∀ i < 4, ∀ j < 4, h.turnedRight i = h.turnedRight j → i = j := by
    cases h <;> decide
  rw [← turnedRight_mod h m, ← turnedRight_mod h n]
  constructor
  · exact within _ (Nat.mod_lt m (by decide)) _ (Nat.mod_lt n (by decide))
  · exact congrArg h.turnedRight

end Heading

namespace Turn

/-- The right turns less the left ones. -/
def net (ts : List Turn) : Int := ts.count .right - ts.count .left

/-- What is left of some turns without the whole turns, in quarter turns to the right. -/
def quarters (ts : List Turn) : Nat := (net ts % 4).toNat

lemma quarters_eq_iff {ts us : List Turn} : quarters ts = quarters us ↔ net ts % 4 = net us % 4 := by
  unfold quarters
  omega

/-- A left turn comes to the same as three right ones. -/
lemma foldl_turned (h : Heading) (ts : List Turn) :
    ts.foldl Heading.turned h = h.turnedRight (quarters ts) := by
  induction ts generalizing h with
  | nil => rfl
  | cons t ts ih =>
    rw [List.foldl_cons, ih]
    cases t with
    | left =>
      have three : h.turned .left = h.turnedRight 3 := by cases h <;> rfl
      rw [three, Heading.turnedRight_add, Heading.turnedRight_eq_iff]
      simp only [quarters, net, List.count_cons_self, List.count_cons_of_ne (by decide : left ≠ right)]
      omega
    | right =>
      have one : h.turned .right = h.turnedRight 1 := rfl
      rw [one, Heading.turnedRight_add, Heading.turnedRight_eq_iff]
      simp only [quarters, net, List.count_cons_self, List.count_cons_of_ne (by decide : right ≠ left)]
      omega

end Turn

namespace Board

/-- Turns are all carried out, and nothing but the heading is different after them. -/
lemma leads_turns {b : Board} {p : Cell} (free : b.IsFree p) (h : Heading) (ts : List Turn) :
    (b.withRobot (some ⟨p, h⟩)).Leads (ts.map .rotate)
      (b.withRobot (some ⟨p, ts.foldl Heading.turned h⟩)) := by
  induction ts generalizing h with
  | nil => exact .stays _
  | cons t ts ih => exact (leads_turn free h t).trans (ih (h.turned t))

end Board

lemma Command.isDrive_of_mem_turns {ts : List Turn} : ∀ k ∈ ts.map rotate, k.IsDrive := by
  intro k hk
  obtain ⟨t, -, rfl⟩ := List.mem_map.mp hk
  exact .rotate t

namespace Simulator

variable {s : Simulator} {b : Board} {r : Robot} {lines : List String} {ts : List Turn}

lemma run_of_turns (valid : b.Valid) (present : b.robot = some r)
    (read : Command.ReadAs lines (ts.map .rotate)) :
    s.replay b lines = .ok (b.withRobot (some ⟨r.location, r.heading.turnedRight (Turn.quarters ts)⟩)) ∧
      s.run b lines = .ok (ts.map fun t => .ran (.rotate t) none true) := by
  have free := (Board.valid_iff_isFree present).mp valid
  have leads := Board.leads_turns free r.heading ts
  rw [Board.withRobot_self present, Turn.foldl_turned] at leads
  have ran := run_of_leads (s := s) leads Command.isDrive_of_mem_turns read
  rwa [List.map_map] at ran

/-- A robot that is told to turn does so every time, and all that is different in the end is its heading:
it is turned to the right by the right turns less the left ones, up to whole turns. Hence turns lead
to the same board as others exactly if these numbers are the same up to multiples of four. -/
theorem turns_add_up (s : Simulator) (b : Board) (r : Robot) (valid : b.Valid)
    (present : b.robot = some r) (lines : List String) (ts : List Turn)
    (read : Command.ReadAs lines (ts.map .rotate)) :
    s.run b lines = .ok (ts.map fun t => .ran (.rotate t) none true) ∧
      s.replay b lines =
        .ok { b with robot := some ⟨r.location, r.heading.turnedRight (Turn.net ts % 4).toNat⟩ } ∧
      ∀ others us, Command.ReadAs others (us.map .rotate) →
        (s.replay b others = s.replay b lines ↔ Turn.net us % 4 = Turn.net ts % 4) := by
  obtain ⟨replayed, ran⟩ := run_of_turns (s := s) valid present read
  refine ⟨ran, replayed, fun others us readOthers => ?_⟩
  obtain ⟨replayed', -⟩ := run_of_turns (s := s) valid present readOthers
  rw [replayed, replayed', ← Turn.quarters_eq_iff]
  constructor
  · intro same
    have robots := congrArg Board.robot (Except.ok.inj same)
    have headings := congrArg Robot.heading (Option.some.inj robots)
    have numbers := Heading.turnedRight_eq_iff.mp headings
    unfold Turn.quarters at numbers ⊢
    omega
  · intro same
    rw [same]

/-- One right turn and four left ones come to a quarter turn to the right, beside an obstacle and with a
cell over the edge ahead. -/
theorem turns_add_up_at_edge :
    let s : Simulator := ⟨.standard, .standard⟩
    let b : Board := ⟨.between ⟨0, 0⟩ ⟨4, 4⟩, some ⟨⟨0, 4⟩, .north⟩, .ofList [⟨1, 4⟩, ⟨0, 5⟩]⟩
    let lines := ["left", "LEFT", "Right", "Left", "lefT"]
    let ts : List Turn := [.left, .left, .right, .left, .left]
    b.Valid ∧ b.robot = some ⟨⟨0, 4⟩, .north⟩ ∧ Command.ReadAs lines (ts.map .rotate) ∧
      s.run b lines = .ok (ts.map fun t => .ran (.rotate t) none true) ∧
      s.replay b lines = .ok { b with robot := some ⟨⟨0, 4⟩, .east⟩ } ∧
      s.replay b ["right"] = s.replay b lines ∧ s.replay b ["left"] ≠ s.replay b lines := by
  intro s b lines ts
  have valid : b.Valid := by decide
  have read : Command.ReadAs lines (ts.map .rotate) := Command.readAs_iff.mpr rfl
  have once : Command.ReadAs ["right"] ([Turn.right].map .rotate) := Command.readAs_iff.mpr rfl
  have back : Command.ReadAs ["left"] ([Turn.left].map .rotate) := Command.readAs_iff.mpr rfl
  obtain ⟨ran, replayed, alike⟩ := turns_add_up s b _ valid rfl lines ts read
  refine ⟨valid, rfl, read, ran, replayed, (alike _ _ once).mpr (by decide), fun same => ?_⟩
  exact absurd ((alike _ _ back).mp same) (by decide)

end Simulator
end GridRobot
