import GridRobot.Grid.CellSet
import Mathlib.Tactic.Lemma

/-! A set of cells holds what the list it was made from holds, and grows by one cell at a time. -/
namespace GridRobot.CellSet

lemma mem_foldl_insert {l : List Cell} {s : CellSet} {c : Cell} :
    c ∈ l.foldl insert s ↔ c ∈ l ∨ c ∈ s := by
  induction l generalizing s with
  | nil => simp
  | cons d l ih =>
    rw [List.foldl_cons, ih, mem_insert, List.mem_cons, or_left_comm, or_assoc]

@[simp] theorem mem_ofList {l : List Cell} {c : Cell} : c ∈ ofList l ↔ c ∈ l := by
  simp [ofList, mem_foldl_insert]

theorem insert_of_mem {s : CellSet} {c : Cell} (old : c ∈ s) : s.insert c = s := by
  ext d
  rw [mem_insert]
  constructor
  · rintro (rfl | given)
    · exact old
    · exact given
  · exact .inr

lemma length_insertInto_le (c : Cell) (l : List Cell) :
    (insertInto c l).length ≤ l.length + 1 := by
  induction l with
  | nil => simp [insertInto]
  | cons d r ih =>
    simp only [insertInto]
    split
    · simp
    · split
      · simp
      · simpa using ih

theorem length_insert_le (s : CellSet) (c : Cell) :
    (s.insert c).cells.length ≤ s.cells.length + 1 :=
  length_insertInto_le c s.cells

end GridRobot.CellSet
