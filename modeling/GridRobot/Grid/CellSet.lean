import GridRobot.Grid.Cell

/-! Finite sets of cells, kept as strictly increasing lists so that equal sets are equal values. -/
namespace GridRobot

structure CellSet where
  cells : List Cell
  increasing : cells.Pairwise Cell.before
  deriving DecidableEq, Repr

namespace CellSet

instance : Membership Cell CellSet := ⟨fun s c => c ∈ s.cells⟩

theorem mem_def {s : CellSet} {c : Cell} : c ∈ s ↔ c ∈ s.cells := Iff.rfl

instance (s : CellSet) (c : Cell) : Decidable (c ∈ s) :=
  inferInstanceAs (Decidable (c ∈ s.cells))

def empty : CellSet := ⟨[], .nil⟩

@[simp] theorem not_mem_empty (c : Cell) : c ∉ empty := by simp [mem_def, empty]

def insertInto (c : Cell) : List Cell → List Cell
  | [] => [c]
  | d :: r => if c = d then d :: r else if c.before d then c :: d :: r else d :: insertInto c r

theorem mem_insertInto {a c : Cell} {l : List Cell} : a ∈ insertInto c l ↔ a = c ∨ a ∈ l := by
  induction l with
  | nil => simp [insertInto]
  | cons d r ih =>
    simp only [insertInto]
    split
    · subst c; simp
    · split
      · simp
      · simp only [List.mem_cons, ih]; grind

theorem pairwise_insertInto (c : Cell) {l : List Cell} (h : l.Pairwise Cell.before) :
    (insertInto c l).Pairwise Cell.before := by
  induction l with
  | nil => simp [insertInto]
  | cons d r ih =>
    have hd := List.pairwise_cons.mp h
    simp only [insertInto]
    split
    · exact h
    · rename_i hcd
      split
      · rename_i hb
        refine List.pairwise_cons.mpr ⟨fun b hm => ?_, h⟩
        rcases List.mem_cons.mp hm with rfl | hm
        · exact hb
        · exact Cell.before_trans hb (hd.1 b hm)
      · rename_i hb
        refine List.pairwise_cons.mpr ⟨fun b hm => ?_, ih hd.2⟩
        rcases mem_insertInto.mp hm with rfl | hm
        · exact Cell.before_of_ne hcd hb
        · exact hd.1 b hm

def insert (s : CellSet) (c : Cell) : CellSet :=
  ⟨insertInto c s.cells, pairwise_insertInto c s.increasing⟩

@[simp] theorem mem_insert {s : CellSet} {a c : Cell} : a ∈ s.insert c ↔ a = c ∨ a ∈ s :=
  mem_insertInto

def ofList (l : List Cell) : CellSet := l.foldl insert empty

@[ext] theorem ext {s t : CellSet} (h : ∀ c, c ∈ s ↔ c ∈ t) : s = t := by
  rcases s with ⟨s, hs⟩
  rcases t with ⟨t, ht⟩
  simp only [mem_def] at h
  suffices s = t by subst this; rfl
  induction s generalizing t with
  | nil =>
    cases t with
    | nil => rfl
    | cons b r => exact absurd ((h b).mpr List.mem_cons_self) List.not_mem_nil
  | cons a r ih =>
    cases t with
    | nil => exact absurd ((h a).mp List.mem_cons_self) List.not_mem_nil
    | cons b q =>
      have ha := List.pairwise_cons.mp hs
      have hb := List.pairwise_cons.mp ht
      have hab : a = b := by
        rcases List.mem_cons.mp ((h a).mp List.mem_cons_self) with e | ha'
        · exact e
        · rcases List.mem_cons.mp ((h b).mpr List.mem_cons_self) with e | hb'
          · exact e.symm
          · exact absurd (Cell.before_trans (hb.1 a ha') (ha.1 b hb')) (Cell.not_before_self b)
      subst hab
      have hrq : r = q := by
        refine ih ha.2 q hb.2 fun c => ?_
        constructor
        · intro hc
          rcases List.mem_cons.mp ((h c).mp (List.mem_cons_of_mem a hc)) with e | hm
          · exact absurd (e ▸ ha.1 c hc) (Cell.not_before_self _)
          · exact hm
        · intro hc
          rcases List.mem_cons.mp ((h c).mpr (List.mem_cons_of_mem a hc)) with e | hm
          · exact absurd (e ▸ hb.1 c hc) (Cell.not_before_self _)
          · exact hm
      rw [hrq]

end CellSet
end GridRobot
