import GridRobot.Config
import GridRobot.Proofs.Schema.Checked
import GridRobot.Proofs.Settings.Variables

/-! What a valid file passes on: the keys that it sets, with the values they were checked to be. -/
namespace GridRobot

open Schema (Reads)
open Environment (IsSection isSection_none isSection_object)
open Decimal (Counting)

lemma Extent.one_le_five : (1 : Int) ≤ 5 := by decide

lemma Extent.ofData_toData (counting : Counting) (e : Extent) :
    Extent.ofData counting e.toData = .ok e := by
  rw [Extent.ofData, Extent.toData]
  exact dif_pos e.property

lemma Extent.ofData_object (counting : Counting) (ms : Members) (e : Extent) :
    Extent.ofData counting (.object ms) ≠ .ok e := nofun

/-- A glyph as a file has it. -/
def Glyphs.written (c : Char) : Data := .text (String.singleton c)

lemma Schema.character_written (c : Char) : Schema.character (Glyphs.written c) = .ok c := by
  rw [Glyphs.written, Schema.character, String.toList_singleton]

lemma Schema.character_object (ms : Members) (c : Char) :
    Schema.character (.object ms) ≠ .ok c := nofun

section

variable {α β : Type} {k l : String}

/-- A section with two keys, of which each is written if there is a value for it. -/
def Members.pair (k l : String) (f : α → Data) (g : β → Data) (a : Option α) (b : Option β) :
    Members :=
  (a.map fun a => (k, f a)).toList ++ (b.map fun b => (l, g b)).toList

lemma Members.nodup_pair (different : k ≠ l) (f : α → Data) (g : β → Data) (a : Option α)
    (b : Option β) : ((pair k l f g a b).map Prod.fst).Nodup := by
  cases a <;> cases b <;> simp [pair, different]

lemma Members.get?_pair (f : α → Data) (g : β → Data) (a : Option α) (b : Option β) (key : String) :
    (pair k l f g a b).get? key =
      (if k = key then a.map f else none).or (if l = key then b.map g else none) := by
  rw [pair, get?_append, get?_toList, get?_toList]

/-- A part of what is given was checked with the whole of it. -/
lemma Schema.Reads.part {check : Data → Checked α} {given : Option Data} {o : Option α}
    {inner : Data → Checked β} {part : α → Option β} {key : String} (h : Reads check given o)
    (checked : ∀ d a, check d = .ok a → Reads inner (d.under? key) (part a)) :
    Reads inner (given.bind (Data.under? key)) (o.bind part) := by
  cases h with
  | none => exact .none
  | some whole => exact checked _ _ whole

/-- A section with two keys is checked key by key. -/
lemma Schema.both_eq_ok_iff {γ : Type} {ms : Members} {check : Data → Checked α}
    {inner : Data → Checked β} {f : Option α × Option β → γ} {c : γ} :
    (Checked.both (Schema.optional ms k check) (Schema.optional ms l inner)).map f = .ok c ↔
      ∃ a b, Reads check (ms.get? k) a ∧ Reads inner (ms.get? l) b ∧ f (a, b) = c := by
  simp only [map_eq_ok_iff, Checked.both_eq_ok, Schema.optional_eq_ok_iff, Prod.exists, and_assoc]

end

namespace PartialSize

variable {counting : Counting} {p : PartialSize} {o : Option PartialSize} {given : Option Data}
  {ms : Members}

theorem ofData_object_eq_ok_iff :
    ofData counting (.object ms) = .ok p ↔
      Reads (Extent.ofData counting) (ms.get? "width") p.width ∧
      Reads (Extent.ofData counting) (ms.get? "height") p.height := by
  refine Schema.both_eq_ok_iff.trans ⟨?_, fun h => ⟨_, _, h.1, h.2, rfl⟩⟩
  rintro ⟨a, b, width, height, rfl⟩
  exact ⟨width, height⟩

lemma reads_of_ofData {d : Data} (checked : ofData counting d = .ok p) :
    Reads (Extent.ofData counting) (d.under? "width") p.width ∧
      Reads (Extent.ofData counting) (d.under? "height") p.height := by
  cases d with
  | object ms => exact ofData_object_eq_ok_iff.mp checked
  | _ => cases checked

lemma isSection (o : Option PartialSize) : IsSection (o.map toData) := by
  cases o with
  | none => exact isSection_none
  | some p => exact isSection_object (Members.nodup_pair (by decide) _ _ _ _)

lemma under?_toData (o : Option PartialSize) :
    (o.map toData).bind (Data.under? "width") = (o.bind width).map Extent.toData ∧
    (o.map toData).bind (Data.under? "height") = (o.bind height).map Extent.toData := by
  cases o with
  | none => exact ⟨rfl, rfl⟩
  | some p =>
    have written (key : String) : (p.toData).under? key = _ :=
      Members.get?_pair (k := "width") (l := "height") Extent.toData Extent.toData _ _ key
    exact ⟨(written "width").trans (by simp), (written "height").trans (by simp)⟩

end PartialSize

namespace PartialGlyphs

variable {p : PartialGlyphs} {o : Option PartialGlyphs} {given : Option Data} {ms : Members}

theorem ofData_object_eq_ok_iff :
    ofData (.object ms) = .ok p ↔
      Reads Schema.character (ms.get? "empty") p.blank ∧
      Reads Schema.character (ms.get? "obstacle") p.obstacle := by
  refine Schema.both_eq_ok_iff.trans ⟨?_, fun h => ⟨_, _, h.1, h.2, rfl⟩⟩
  rintro ⟨a, b, blank, obstacle, rfl⟩
  exact ⟨blank, obstacle⟩

lemma reads_of_ofData {d : Data} (checked : ofData d = .ok p) :
    Reads Schema.character (d.under? "empty") p.blank ∧
      Reads Schema.character (d.under? "obstacle") p.obstacle := by
  cases d with
  | object ms => exact ofData_object_eq_ok_iff.mp checked
  | _ => cases checked

lemma isSection (o : Option PartialGlyphs) : IsSection (o.map toData) := by
  cases o with
  | none => exact isSection_none
  | some p => exact isSection_object (Members.nodup_pair (by decide) _ _ _ _)

lemma under?_toData (o : Option PartialGlyphs) :
    (o.map toData).bind (Data.under? "empty") = (o.bind blank).map Glyphs.written ∧
    (o.map toData).bind (Data.under? "obstacle") = (o.bind obstacle).map Glyphs.written := by
  cases o with
  | none => exact ⟨rfl, rfl⟩
  | some p =>
    have written (key : String) : (p.toData).under? key = _ :=
      Members.get?_pair (k := "empty") (l := "obstacle") Glyphs.written Glyphs.written _ _ key
    exact ⟨(written "empty").trans (by simp), (written "obstacle").trans (by simp)⟩

end PartialGlyphs

/-- A value that a section can have: how it is checked and written, and what it is by default. -/
structure Leaf (α : Type) where
  group : String
  key : String
  check : Data → Checked α
  write : α → Data
  standard : α
  passes : ∀ a, check (write a) = .ok a
  plain : ∀ ms a, check (.object ms) ≠ .ok a

namespace Leaf

def width (counting : Counting) : Leaf Extent where
  group := "board"
  key := "width"
  check := Extent.ofData counting
  write := Extent.toData
  standard := ⟨5, Extent.one_le_five⟩
  passes := Extent.ofData_toData counting
  plain := Extent.ofData_object counting

def height (counting : Counting) : Leaf Extent := { width counting with key := "height" }

def blank : Leaf Char where
  group := "map"
  key := "empty"
  check := Schema.character
  write := Glyphs.written
  standard := '0'
  passes := Schema.character_written
  plain := Schema.character_object

def obstacle : Leaf Char := { blank with key := "obstacle", standard := 'X' }

variable {α : Type} (l : Leaf α)

/-- What members have for a value in its section. -/
def find? (ms : Members) : Option Data := (ms.get? l.group).bind (Data.under? l.key)

/-- A value of a document is passed on as what it was checked to be. -/
def Carried (document overrides : Members) : Prop :=
  ∃ o, Reads l.check (l.find? document) o ∧ l.find? overrides = o.map l.write

end Leaf

namespace Config

variable {counting : Counting} {document : Members} {c : Config}

theorem ofData_object_eq_ok_iff :
    ofData counting (.object document) = .ok c ↔
      Reads (PartialSize.ofData counting) (document.get? "board") c.size ∧
      Reads PartialGlyphs.ofData (document.get? "map") c.glyphs := by
  refine Schema.both_eq_ok_iff.trans ⟨?_, fun h => ⟨_, _, h.1, h.2, rfl⟩⟩
  rintro ⟨a, b, size, glyphs, rfl⟩
  exact ⟨size, glyphs⟩

lemma get?_overrides (c : Config) :
    c.overrides.get? "board" = c.size.map PartialSize.toData ∧
    c.overrides.get? "map" = c.glyphs.map PartialGlyphs.toData :=
  ⟨(Members.get?_pair _ _ _ _ _).trans (by simp), (Members.get?_pair _ _ _ _ _).trans (by simp)⟩

lemma isSection_overrides (c : Config) (s : String × List String)
    (hs : s ∈ Environment.sections) : IsSection (c.overrides.get? s.1) := by
  simp only [Environment.sections, List.mem_cons, List.not_mem_nil, or_false] at hs
  rcases hs with rfl | rfl
  · rw [(get?_overrides c).1]
    exact PartialSize.isSection _
  · rw [(get?_overrides c).2]
    exact PartialGlyphs.isSection _

/-- The number of columns that is given, if any. -/
def width? (c : Config) : Option Extent := c.size.bind PartialSize.width

def height? (c : Config) : Option Extent := c.size.bind PartialSize.height

def blank? (c : Config) : Option Char := c.glyphs.bind PartialGlyphs.blank

def obstacle? (c : Config) : Option Char := c.glyphs.bind PartialGlyphs.obstacle

/-- What is given for a value is what its check made of the document. -/
theorem reads_of_valid (valid : ofData counting (.object document) = .ok c) :
    Reads (Leaf.width counting).check ((Leaf.width counting).find? document) c.width? ∧
    Reads (Leaf.height counting).check ((Leaf.height counting).find? document) c.height? ∧
    Reads Leaf.blank.check (Leaf.blank.find? document) c.blank? ∧
    Reads Leaf.obstacle.check (Leaf.obstacle.find? document) c.obstacle? := by
  obtain ⟨size, glyphs⟩ := ofData_object_eq_ok_iff.mp valid
  exact ⟨size.part fun d p h => (PartialSize.reads_of_ofData h).1,
    size.part fun d p h => (PartialSize.reads_of_ofData h).2,
    glyphs.part fun d p h => (PartialGlyphs.reads_of_ofData h).1,
    glyphs.part fun d p h => (PartialGlyphs.reads_of_ofData h).2⟩

/-- A value is written if it is given, and no default in the place of one. -/
theorem find?_overrides (counting : Counting) (c : Config) :
    (Leaf.width counting).find? c.overrides = c.width?.map (Leaf.width counting).write ∧
    (Leaf.height counting).find? c.overrides = c.height?.map (Leaf.height counting).write ∧
    Leaf.blank.find? c.overrides = c.blank?.map Leaf.blank.write ∧
    Leaf.obstacle.find? c.overrides = c.obstacle?.map Leaf.obstacle.write := by
  obtain ⟨board, map⟩ := get?_overrides c
  have given (l : Leaf Extent) (h : l.group = "board") : l.find? c.overrides =
      (c.size.map PartialSize.toData).bind (Data.under? l.key) := by rw [Leaf.find?, h, board]
  have drawn (l : Leaf Char) (h : l.group = "map") : l.find? c.overrides =
      (c.glyphs.map PartialGlyphs.toData).bind (Data.under? l.key) := by rw [Leaf.find?, h, map]
  refine ⟨?_, ?_, ?_, ?_⟩
  · exact (given _ rfl).trans (PartialSize.under?_toData c.size).1
  · exact (given _ rfl).trans (PartialSize.under?_toData c.size).2
  · exact (drawn _ rfl).trans (PartialGlyphs.under?_toData c.glyphs).1
  · exact (drawn _ rfl).trans (PartialGlyphs.under?_toData c.glyphs).2

/-- A valid file passes on each value that it sets, and no default in the place of another. -/
theorem carried_of_valid (valid : ofData counting (.object document) = .ok c) :
    (Leaf.width counting).Carried document c.overrides ∧
    (Leaf.height counting).Carried document c.overrides ∧
    Leaf.blank.Carried document c.overrides ∧ Leaf.obstacle.Carried document c.overrides := by
  obtain ⟨width, height, blank, obstacle⟩ := reads_of_valid valid
  obtain ⟨columns, rows, free, taken⟩ := find?_overrides counting c
  exact ⟨⟨_, width, columns⟩, ⟨_, height, rows⟩, ⟨_, blank, free⟩, ⟨_, obstacle, taken⟩⟩

end Config
end GridRobot
