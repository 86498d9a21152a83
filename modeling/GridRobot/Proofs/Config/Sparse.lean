import GridRobot.Proofs.Config.Overrides

/-! Configurations written sparsely: what was given and nothing else, and what is written is checked
to be the same configuration again. -/
namespace GridRobot

open Schema (Reads)
open Decimal (Counting)

/-- The names of what an object has. -/
def Data.names : Data → List String
  | .object ms => ms.map Prod.fst
  | _ => []

section

variable {α β : Type} {k l : String} {check : Data → Checked α} {inner : Data → Checked β}
  {write : α → Data} {f : β → Data} {a : Option α} {b : Option β}

lemma Schema.Reads.isSome_eq {given : Option Data} (h : Reads check given a) :
    a.isSome = given.isSome := by
  cases h <;> rfl

lemma Schema.Reads.of_written {written : Option Data} (passes : ∀ a, check (write a) = .ok a)
    (same : written = a.map write) : Reads check written a :=
  same ▸ Schema.reads_map passes a

/-- What is written was given, and it is what the check made of that. -/
lemma Schema.Reads.exists_given {given : Option Data} {d : Data} (h : Reads check given a)
    (written : d ∈ a.map write) : ∃ g p, given = some g ∧ check g = .ok p ∧ d = write p := by
  cases h with
  | none => cases written
  | some checked => exact ⟨_, _, rfl, checked, (Option.some.inj written).symm⟩

/-- What is written has the names that were given, in their order. -/
lemma Members.names_pair (given : String → Option Data) (first : Reads check (given k) a)
    (second : Reads inner (given l) b) :
    (pair k l write f a b).map Prod.fst = [k, l].filter fun n => (given n).isSome := by
  simp only [List.filter_cons, List.filter_nil, ← first.isSome_eq, ← second.isSome_eq]
  cases a <;> cases b <;> rfl

end

lemma PartialSize.names_of_ofData {counting : Counting} {d : Data} {p : PartialSize}
    (checked : ofData counting d = .ok p) :
    p.toData.names = ["width", "height"].filter fun k => (d.under? k).isSome := by
  obtain ⟨width, height⟩ := reads_of_ofData checked
  exact Members.names_pair (fun k => d.under? k) width height

theorem PartialSize.ofData_toData (counting : Counting) (p : PartialSize) :
    ofData counting p.toData = .ok p := by
  obtain ⟨width, height⟩ := under?_toData (some p)
  have passes := Extent.ofData_toData counting
  exact ofData_object_eq_ok_iff.mpr ⟨.of_written passes width, .of_written passes height⟩

lemma PartialGlyphs.names_of_ofData {d : Data} {p : PartialGlyphs} (checked : ofData d = .ok p) :
    p.toData.names = ["empty", "obstacle"].filter fun k => (d.under? k).isSome := by
  obtain ⟨blank, obstacle⟩ := reads_of_ofData checked
  exact Members.names_pair (fun k => d.under? k) blank obstacle

theorem PartialGlyphs.ofData_toData (p : PartialGlyphs) : ofData p.toData = .ok p := by
  obtain ⟨blank, obstacle⟩ := under?_toData (some p)
  exact ofData_object_eq_ok_iff.mpr
    ⟨.of_written Schema.character_written blank, .of_written Schema.character_written obstacle⟩

namespace Leaf

variable {α : Type} (l : Leaf α) (v : Data)

/-- What a value has for a value in its section. -/
def within? : Option Data := (v.under? l.group).bind (Data.under? l.key)

/-- What is given is checked, and written as what it was checked to be; what is not given is standard,
and not written. -/
def Kept (written : Members) (value : α) : Prop :=
  match l.within? v with
  | some d => l.check d = .ok value ∧ l.find? written = some (l.write value)
  | none => value = l.standard ∧ l.find? written = none

variable {l v}

lemma kept_of_reads {written : Members} {o : Option α} (h : Reads l.check (l.within? v) o)
    (same : l.find? written = o.map l.write) : l.Kept v written (o.getD l.standard) := by
  rw [Kept]
  generalize l.within? v = given at h
  cases h with
  | none => exact ⟨rfl, same⟩
  | some checked => exact ⟨checked, same⟩

end Leaf

namespace Config

variable {counting : Counting} {v : Data} {c : Config}

lemma values_eq (counting : Counting) (c : Config) :
    c.boardSize.width = c.width?.getD (Leaf.width counting).standard ∧
    c.boardSize.height = c.height?.getD (Leaf.height counting).standard ∧
    c.mapGlyphs.blank = c.blank?.getD Leaf.blank.standard ∧
    c.mapGlyphs.obstacle = c.obstacle?.getD Leaf.obstacle.standard := by
  obtain ⟨size, glyphs⟩ := c
  cases size <;> cases glyphs <;> exact ⟨rfl, rfl, rfl, rfl⟩

lemma exists_object (accepted : ofData counting v = .ok c) : ∃ document : Members, v = .object document := by
  cases v with
  | object ms => exact ⟨ms, rfl⟩
  | _ => cases accepted

theorem ofData_overrides (counting : Counting) (c : Config) :
    ofData counting (.object c.overrides) = .ok c := by
  obtain ⟨board, map⟩ := get?_overrides c
  exact ofData_object_eq_ok_iff.mpr ⟨.of_written (PartialSize.ofData_toData counting) board,
    .of_written PartialGlyphs.ofData_toData map⟩

lemma names_written (accepted : ofData counting v = .ok c) :
    c.overrides.map Prod.fst = (Environment.sections.map Prod.fst).filter fun s =>
      (v.under? s).isSome := by
  obtain ⟨document, rfl⟩ := exists_object accepted
  obtain ⟨size, glyphs⟩ := ofData_object_eq_ok_iff.mp accepted
  exact Members.names_pair (fun s => (Data.object document).under? s) size glyphs

lemma names_section (accepted : ofData counting v = .ok c) (s : String × List String)
    (hs : s ∈ Environment.sections) (d : Data) (hd : d ∈ c.overrides.get? s.1) :
    d.names = s.2.filter fun k => ((v.under? s.1).bind (Data.under? k)).isSome := by
  obtain ⟨document, rfl⟩ := exists_object accepted
  obtain ⟨size, glyphs⟩ := ofData_object_eq_ok_iff.mp accepted
  obtain ⟨board, map⟩ := get?_overrides c
  simp only [Environment.sections, List.mem_cons, List.not_mem_nil, or_false] at hs
  rcases hs with rfl | rfl
  · rw [board] at hd
    obtain ⟨g, p, given, checked, rfl⟩ := size.exists_given hd
    simp only [Data.under?, given, Option.bind_some]
    exact PartialSize.names_of_ofData checked
  · rw [map] at hd
    obtain ⟨g, p, given, checked, rfl⟩ := glyphs.exists_given hd
    simp only [Data.under?, given, Option.bind_some]
    exact PartialGlyphs.names_of_ofData checked

/-- A section or a key is written if and only if it is given, every value is what its check made of
what was given or else standard, and what is written is checked to be the same configuration. -/
theorem overrides_lose_nothing (counting : Counting) (v : Data) (c : Config)
    (accepted : ofData counting v = .ok c) :
    c.overrides.map Prod.fst = (Environment.sections.map Prod.fst).filter (fun s =>
      (v.under? s).isSome) ∧
    (∀ s ∈ Environment.sections, ∀ d ∈ c.overrides.get? s.1,
      d.names = s.2.filter fun k => ((v.under? s.1).bind (Data.under? k)).isSome) ∧
    ((Leaf.width counting).Kept v c.overrides c.boardSize.width ∧
      (Leaf.height counting).Kept v c.overrides c.boardSize.height ∧
      Leaf.blank.Kept v c.overrides c.mapGlyphs.blank ∧
      Leaf.obstacle.Kept v c.overrides c.mapGlyphs.obstacle) ∧
    ofData counting (.object c.overrides) = .ok c := by
  refine ⟨names_written accepted, names_section accepted, ?_, ofData_overrides counting c⟩
  obtain ⟨document, rfl⟩ := exists_object accepted
  obtain ⟨width, height, blank, obstacle⟩ := reads_of_valid accepted
  obtain ⟨columns, rows, free, taken⟩ := find?_overrides counting c
  obtain ⟨sameW, sameH, sameB, sameO⟩ := values_eq counting c
  rw [sameW, sameH, sameB, sameO]
  exact ⟨Leaf.kept_of_reads width columns, Leaf.kept_of_reads height rows,
    Leaf.kept_of_reads blank free, Leaf.kept_of_reads obstacle taken⟩

/-- A width as a text, a section without keys, and names that mean nothing. -/
def laxSample : Data := .object [
  ("colour", .null),
  ("map", .object []),
  ("board", .object [("depth", .int 3), ("width", .text " +0_7.0 ")])]

theorem overrides_lose_nothing_lax :
    let c : Config := ⟨some ⟨some ⟨7, by decide⟩, none⟩, some ⟨none, none⟩⟩
    ofData .withSign laxSample = .ok c ∧
      c.overrides.map Prod.fst = ["board", "map"] ∧
      (∀ d ∈ c.overrides.get? "board", d.names = ["width"]) ∧
      (∀ d ∈ c.overrides.get? "map", d.names = []) ∧
      ofData .withSign (.object c.overrides) = .ok c := by
  intro c
  have accepted : ofData .withSign laxSample = .ok c := by decide +kernel
  obtain ⟨sections, keys, -, again⟩ := overrides_lose_nothing .withSign laxSample c accepted
  have board : ("board", ["width", "height"]) ∈ Environment.sections := by decide
  have map : ("map", ["empty", "obstacle"]) ∈ Environment.sections := by decide
  exact ⟨accepted, sections, keys _ board, keys _ map, again⟩

end Config
end GridRobot
