import GridRobot.Proofs.Data.Plain
import Mathlib.Data.List.Nodup
import Mathlib.Tactic.Lemma

/-! Objects whose members stand in any order and have others among them: each member is still found by
its name, and the data is as plain as it was and at most one level deeper. -/
namespace GridRobot
open Decimal (Counting IsShort)

/-- Null, a truth value, an integer or a text. Where digits are counted there may not be too many, and
the text has to be a string. -/
def Data.IsSimple (counting : Option Counting) : Data → Prop
  | .null | .bool _ | .text _ => True
  | .int i => ∀ k ∈ counting, IsShort k i
  | .unpaired _ => counting = none
  | .float _ | .moment _ | .list _ | .object _ => False

namespace Data.IsSimple

variable {counting : Option Counting} {k : Counting} {x : Data}

lemma isPlain (h : x.IsSimple (some k)) (same : ∀ j ∈ counting, j = k) : x.IsPlain counting := by
  cases x with
  | null | bool _ | text _ => trivial
  | int i => exact fun j counted => same j counted ▸ h k rfl
  | unpaired _ => cases h
  | float _ | moment _ | list _ | object _ => exact h.elim

lemma depth_eq (h : x.IsSimple counting) : x.depth = 1 := by
  cases x with
  | null | bool _ | text _ | int _ | unpaired _ => rfl
  | float _ | moment _ | list _ | object _ => exact h.elim

end Data.IsSimple

/-- The depth of an object is that of its deepest member. -/
lemma Data.depthOfMembers_le_iff {ms : Members} {n : Nat} :
    depthOfMembers ms ≤ n ↔ ∀ m ∈ ms, m.2.depth ≤ n := by
  induction ms with
  | nil => simp [depthOfMembers]
  | cons m ms ih => rw [List.forall_mem_cons, ← ih, depthOfMembers, Nat.max_le]

namespace Members

variable {counting : Option Counting} {ms fields : Members}

/-- The members are the fields in any order, and any number of simple ones that have other names. -/
inductive Extends (counting : Option Counting) (ms fields : Members) : Prop
  | intro {others : Members} (order : ms.Perm (fields ++ others))
      (distinct : (others.map Prod.fst).Nodup) (new : ∀ m ∈ others, m.1 ∉ fields.map Prod.fst)
      (simple : ∀ m ∈ others, m.2.IsSimple counting)

namespace Extends

lemma nodup (h : ms.Extends counting fields) (distinct : (fields.map Prod.fst).Nodup) :
    (ms.map Prod.fst).Nodup := by
  obtain ⟨order, others, new, -⟩ := h
  rw [(order.map Prod.fst).nodup_iff, List.map_append]
  refine List.nodup_append'.mpr ⟨distinct, others, fun name given other => ?_⟩
  obtain ⟨m, hm, rfl⟩ := List.mem_map.mp other
  exact new m hm given

lemma nodup_fields (h : ms.Extends counting fields) (distinct : (ms.map Prod.fst).Nodup) :
    (fields.map Prod.fst).Nodup := by
  obtain ⟨order, -, -, -⟩ := h
  rw [(order.map Prod.fst).nodup_iff, List.map_append] at distinct
  exact distinct.of_append_left

lemma mem (h : ms.Extends counting fields) {m : String × Data} (hm : m ∈ fields) : m ∈ ms := by
  obtain ⟨order, -, -, -⟩ := h
  exact order.mem_iff.mpr (List.mem_append_left _ hm)

lemma mem_or_isSimple (h : ms.Extends counting fields) {m : String × Data} (hm : m ∈ ms) :
    m ∈ fields ∨ m.2.IsSimple counting := by
  obtain ⟨order, -, -, simple⟩ := h
  exact (List.mem_append.mp (order.mem_iff.mp hm)).imp_right (simple m)

end Extends
end Members

namespace Data

/-- The first value is the second one, except that the objects in it, on every level, may have their
members in another order and simple members of other names among them. -/
inductive Widens (counting : Option Counting) : Data → Data → Prop
  | same (x : Data) : Widens counting x x
  | object {ms fields : Members} {wide : String → Data}
      (inner : ∀ m ∈ fields, Widens counting (wide m.1) m.2)
      (outer : ms.Extends counting (fields.map fun m => (m.1, wide m.1))) :
      Widens counting (.object ms) (.object fields)

namespace Widens

variable {counting : Option Counting} {k : Counting} {ms fields : Members} {x y : Data}

lemma names_wide (wide : String → Data) (fields : Members) :
    (fields.map fun m => (m.1, wide m.1)).map Prod.fst = fields.map Prod.fst := by
  rw [List.map_map]
  rfl

/-- Every field is found by its name, and has what it had, widened. -/
theorem get? (h : Widens counting (.object ms) (.object fields))
    (distinct : (fields.map Prod.fst).Nodup) {m : String × Data} (hm : m ∈ fields) :
    ∃ x, ms.get? m.1 = some x ∧ x.Widens counting m.2 := by
  cases h with
  | same => exact ⟨m.2, Members.get?_of_mem distinct hm, .same m.2⟩
  | @object _ _ wide inner outer =>
    have names := outer.nodup (by rwa [names_wide])
    have mem : (m.1, wide m.1) ∈ ms := outer.mem (List.mem_map.mpr ⟨m, hm, rfl⟩)
    exact ⟨wide m.1, Members.get?_of_mem names mem, inner m hm⟩

/-- What is added is plain already, whether digits are counted as they were for it or not at all. -/
theorem isPlain_iff (h : x.Widens (some k) y) (same : ∀ j ∈ counting, j = k) :
    x.IsPlain counting ↔ y.IsPlain counting := by
  induction h with
  | same x => exact Iff.rfl
  | @object ms fields wide inner outer ih =>
    simp only [IsPlain, Members.arePlain_iff]
    constructor
    · rintro ⟨distinct, values⟩
      refine ⟨names_wide wide fields ▸ outer.nodup_fields distinct, fun m hm => ?_⟩
      exact (ih m hm).mp (values _ (outer.mem (List.mem_map.mpr ⟨m, hm, rfl⟩)))
    · rintro ⟨distinct, values⟩
      refine ⟨outer.nodup (by rwa [names_wide]), fun m hm => ?_⟩
      rcases outer.mem_or_isSimple hm with given | simple
      · obtain ⟨f, hf, rfl⟩ := List.mem_map.mp given
        exact (ih f hf).mpr (values f hf)
      · exact simple.isPlain same

/-- Where an object without members gets some, it gets one level deeper. -/
theorem depth_le (h : x.Widens counting y) : x.depth ≤ y.depth + 1 := by
  induction h with
  | same x => exact Nat.le_succ _
  | @object ms fields wide inner outer ih =>
    have members : depthOfMembers ms ≤ depthOfMembers fields + 1 := by
      refine depthOfMembers_le_iff.mpr fun m hm => ?_
      rcases outer.mem_or_isSimple hm with given | simple
      · obtain ⟨f, hf, rfl⟩ := List.mem_map.mp given
        have deep := ih f hf
        have within := depthOfMembers_le_iff.mp (Nat.le_refl (depthOfMembers fields)) f hf
        simp only
        omega
      · rw [simple.depth_eq]
        omega
    simp only [depth]
    omega

lemma exists_object (h : x.Widens counting (.object fields)) : ∃ ms : Members, x = .object ms := by
  cases h with
  | same => exact ⟨fields, rfl⟩
  | object => exact ⟨_, rfl⟩

lemma eq_int {i : Int} (h : x.Widens counting (.int i)) : x = .int i := by
  cases h
  rfl

lemma eq_text {t : String} (h : x.Widens counting (.text t)) : x = .text t := by
  cases h
  rfl

end Widens
end Data
end GridRobot
