import GridRobot.Data.Basic
import GridRobot.Proofs.Text.Numeral
import Mathlib.Tactic.Lemma

/-! Data that can be written without loss, and members whose names are distinct. -/
namespace GridRobot
open Decimal (Counting IsShort)

mutual

/-- Neither floats nor dates, no text that is no string, no integer with more digits than there may be
if they are counted, and no name twice. -/
def Data.IsPlain (counting : Option Counting) : Data → Prop
  | .null | .bool _ | .text _ => True
  | .int i => ∀ k ∈ counting, IsShort k i
  | .float _ | .unpaired _ | .moment _ => False
  | .list xs => Data.ArePlain counting xs
  | .object ms => (ms.map Prod.fst).Nodup ∧ Members.ArePlain counting ms

def Data.ArePlain (counting : Option Counting) : List Data → Prop
  | [] => True
  | x :: xs => x.IsPlain counting ∧ Data.ArePlain counting xs

def Members.ArePlain (counting : Option Counting) : List (String × Data) → Prop
  | [] => True
  | (_, x) :: ms => x.IsPlain counting ∧ Members.ArePlain counting ms

end

lemma Data.isPlain_int (i : Int) : (Data.int i).IsPlain none := fun _ counted => nomatch counted

mutual

/-- Where digits do not count, a number may have any number of them. -/
theorem Data.IsPlain.of_counted {counting : Option Counting} :
    ∀ {x : Data}, x.IsPlain counting → x.IsPlain none
  | .null, _ | .bool _, _ | .text _, _ => trivial
  | .int _, _ => fun _ counted => nomatch counted
  | .float _, plain | .unpaired _, plain | .moment _, plain => plain.elim
  | .list _, plain => Data.ArePlain.of_counted plain
  | .object _, plain => ⟨plain.1, Members.ArePlain.of_counted plain.2⟩

theorem Data.ArePlain.of_counted {counting : Option Counting} :
    ∀ {xs : List Data}, Data.ArePlain counting xs → Data.ArePlain none xs
  | [], _ => trivial
  | _ :: _, plain => ⟨plain.1.of_counted, Data.ArePlain.of_counted plain.2⟩

theorem Members.ArePlain.of_counted {counting : Option Counting} :
    ∀ {ms : List (String × Data)}, Members.ArePlain counting ms → Members.ArePlain none ms
  | [], _ => trivial
  | (_, _) :: _, plain => ⟨plain.1.of_counted, Members.ArePlain.of_counted plain.2⟩

end

namespace Members

lemma arePlain_iff {counting : Option Counting} {ms : Members} :
    ArePlain counting ms ↔ ∀ m ∈ ms, m.2.IsPlain counting := by
  induction ms with
  | nil => simp [ArePlain]
  | cons m ms ih => rw [List.forall_mem_cons, ← ih, ArePlain]

/-- A member is found by its name if no other has that name. -/
theorem get?_of_mem {ms : Members} {m : String × Data} (distinct : (ms.map Prod.fst).Nodup)
    (hm : m ∈ ms) : ms.get? m.1 = some m.2 := by
  induction ms with
  | nil => cases hm
  | cons k ms ih =>
    obtain ⟨absent, rest⟩ := List.nodup_cons.mp distinct
    cases hm with
    | head => simp [get?]
    | tail _ later =>
      have other : k.1 ≠ m.1 := fun same => absent (same ▸ List.mem_map_of_mem later)
      have found := ih rest later
      rw [get?] at found ⊢
      rw [List.find?_cons_of_neg (by simpa using other), found]

lemma set_of_not_mem {ms : Members} {key : String} {value : Data}
    (absent : key ∉ ms.map Prod.fst) : set ms key value = ms ++ [(key, value)] := by
  have none : ms.has key = false := by
    rw [has, List.any_eq_false]
    intro m hm same
    exact absent (List.mem_map.mpr ⟨m, hm, beq_iff_eq.mp same⟩)
  rw [set, none]
  rfl

lemma not_mem_of_nodup {done ms : Members} {m : String × Data}
    (h : ((done ++ m :: ms).map Prod.fst).Nodup) : m.1 ∉ done.map Prod.fst := by
  intro hm
  rw [List.map_append, List.nodup_append] at h
  exact h.2.2 m.1 hm m.1 (by simp) rfl

lemma foldl_set {done ms : Members} (h : ((done ++ ms).map Prod.fst).Nodup) :
    ms.foldl (fun acc m => set acc m.1 m.2) done = done ++ ms := by
  induction ms generalizing done with
  | nil => simp
  | cons m ms ih =>
    rw [List.foldl_cons, set_of_not_mem (not_mem_of_nodup h), ih (by simpa using h), List.append_assoc]
    rfl

/-- Distinct names are left as they are. -/
theorem ofList_of_nodup {ms : List (String × Data)} (h : (ms.map Prod.fst).Nodup) :
    ofList ms = ms := by
  have start : (([] ++ ms).map Prod.fst).Nodup := h
  exact foldl_set start

end Members

end GridRobot
