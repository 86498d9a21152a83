import GridRobot.Command.Record
import GridRobot.Proofs.Command.Reading
import GridRobot.Proofs.Data.Json.RoundTrip
import GridRobot.Proofs.Data.Widened
import GridRobot.Proofs.Grid.Cell
import GridRobot.Proofs.Schema.Checked
import Mathlib.Tactic.Lemma

/-! A command is read back from its record, and from the JSON text of its record, whatever order the
members of the record stand in and whatever others there are among them. A text has to be one that the
reader of JSON takes: it counts digits, with the sign or without, and wants texts to be strings. -/
namespace GridRobot
open Decimal (Counting IsShort)

lemma Cell.ofData_of_widens {counting : Option Counting} {d : Data} {c : Cell} (k : Counting)
    (h : d.Widens counting c.toData) : Cell.ofData k d = .ok c := by
  obtain ⟨ms, rfl⟩ := h.exists_object
  have distinct : ["x", "y"].Nodup := by decide
  obtain ⟨x, column, hx⟩ := h.get? distinct (m := ("x", .int c.x)) (by simp)
  obtain ⟨y, row, hy⟩ := h.get? distinct (m := ("y", .int c.y)) (by simp)
  obtain rfl := hx.eq_int
  obtain rfl := hy.eq_int
  have first : Schema.required ms "x" (Schema.integer k) = .ok c.x :=
    Schema.required_of_get? column rfl
  have second : Schema.required ms "y" (Schema.integer k) = .ok c.y :=
    Schema.required_of_get? row rfl
  show Except.map _ (Checked.both _ _) = _
  rw [first, second]
  rfl

lemma Heading.ofData_toData (h : Heading) : Heading.ofData h.toData = .ok h := by
  cases h <;> rfl

lemma Turn.ofData_toData (t : Turn) : Turn.ofData t.toData = .ok t := by cases t <;> rfl

namespace Command

variable {counting : Option Counting} {k : Counting} {c : Command} {d : Data} {s : Json.Style}

lemma nodup_toMembers (c : Command) : (c.toMembers.map Prod.fst).Nodup := by
  cases c <;> simp [toMembers, tagKey]

/-- A record with the fields of a command is that command, in whatever order they are and whatever else
it has in it. -/
theorem ofData_of_widens (k : Counting) (widened : d.Widens counting c.toData) :
    ofData k d = .ok c := by
  obtain ⟨ms, rfl⟩ := widened.exists_object
  have found : ∀ m ∈ c.toMembers, ∃ x, ms.get? m.1 = some x ∧ x.Widens counting m.2 :=
    fun m hm => widened.get? (nodup_toMembers c) hm
  obtain ⟨kind, tag, named⟩ := found (tagKey, .text c.kind) List.mem_cons_self
  obtain rfl := named.eq_text
  simp only [ofData, tag]
  cases c with
  | place p h =>
    obtain ⟨place, location, wide⟩ := found ("location", p.toData) (by simp [toMembers])
    obtain ⟨name, facing, named⟩ := found ("facing", h.toData) (by simp [toMembers])
    obtain rfl := named.eq_text
    have first := Schema.required_of_get? location (Cell.ofData_of_widens k wide)
    have second := Schema.required_of_get? facing (Heading.ofData_toData h)
    show Checked.within _ (Except.map _ (Checked.both _ _)) = _
    rw [first, second]
    rfl
  | rotate t =>
    obtain ⟨name, direction, named⟩ := found ("direction", t.toData) (by simp [toMembers])
    obtain rfl := named.eq_text
    have only := Schema.required_of_get? direction (Turn.ofData_toData t)
    show Checked.within _ (Except.map _ _) = _
    rw [only]
    rfl
  | move | report | placeObject | map => rfl

theorem ofData_toData (k : Counting) (c : Command) : ofData k c.toData = .ok c :=
  ofData_of_widens k (.same c.toData : c.toData.Widens none c.toData)

/-- A robot is not placed too far away for the place to be read from a text. -/
def IsNear (k : Counting) : Command → Prop
  | .place p _ => IsShort k p.x ∧ IsShort k p.y
  | _ => True

/-- The place is the only part of a command that may be too long for a text. -/
lemma isPlain_toData_of_place (short : ∀ p h, c = .place p h →
    (Data.int p.x).IsPlain counting ∧ (Data.int p.y).IsPlain counting) :
    c.toData.IsPlain counting := by
  refine ⟨nodup_toMembers c, ?_⟩
  cases c with
  | place p h =>
    obtain ⟨x, y⟩ := short p h rfl
    exact ⟨trivial, ⟨by simp, x, y, trivial⟩, trivial, trivial⟩
  | rotate t => exact ⟨trivial, trivial, trivial⟩
  | move | report | placeObject | map => exact ⟨trivial, trivial⟩

lemma isPlain_toData (c : Command) : c.toData.IsPlain none :=
  isPlain_toData_of_place fun p _ _ => ⟨Data.isPlain_int p.x, Data.isPlain_int p.y⟩

lemma isPlain_toData_iff : c.toData.IsPlain (some k) ↔ c.IsNear k := by
  have short (i : Int) : (Data.int i).IsPlain (some k) ↔ IsShort k i := by simp [Data.IsPlain]
  constructor
  · rintro ⟨-, plain⟩
    cases c with
    | place p h =>
      obtain ⟨-, ⟨-, x, y, -⟩, -⟩ := plain
      exact ⟨(short p.x).mp x, (short p.y).mp y⟩
    | move | rotate t | report | placeObject | map => trivial
  · intro near
    refine isPlain_toData_of_place fun p h placed => ?_
    subst placed
    exact ⟨(short p.x).mpr near.1, (short p.y).mpr near.2⟩

lemma depth_toData_le (c : Command) : c.toData.depth ≤ 3 := by
  cases c <;> exact Nat.le_of_ble_eq_true rfl

/-- The members that are added are short enough, so the text is read just if the place is, too. -/
lemma givesIf_ofText_of_widens (hs : s.Standard) (widened : d.Widens (some k) c.toData) :
    Json.GivesIf (c.IsNear k) d (Json.ofText (dialect k) (Json.toText s d)) := by
  have plain : d.IsPlain none :=
    (widened.isPlain_iff fun j counted => absurd counted (Option.not_mem_none j)).mpr
      (isPlain_toData c)
  have short : d.IsPlain (some k) ↔ c.IsNear k :=
    (widened.isPlain_iff fun _ counted => (Option.some.inj counted).symm).trans isPlain_toData_iff
  have room : d.depth ≤ (dialect k).depth :=
    Nat.le_trans widened.depth_le
      (Nat.le_trans (Nat.succ_le_succ (depth_toData_le c)) (by decide : 4 ≤ 200))
  exact (Json.givesIf_ofText hs plain room).congr short

/-- The style in which the record is written does not matter. -/
theorem ofJson_of_widens (hs : s.Standard) (near : c.IsNear k) (widened : d.Widens (some k) c.toData) :
    ofJson k (Json.toText s d) = .ok c := by
  rw [ofJson, (givesIf_ofText_of_widens hs widened).1 near]
  simp only [ofData_of_widens k widened]
  rfl

theorem ofJson_of_not_isNear (hs : s.Standard) (far : ¬ c.IsNear k)
    (widened : d.Widens (some k) c.toData) : ofJson k (Json.toText s d) = .fail .notJson := by
  rw [ofJson, (givesIf_ofText_of_widens hs widened).2 far]

theorem ofJson_toText (hs : s.Standard) (near : c.IsNear k) :
    ofJson k (Json.toText s c.toData) = .ok c :=
  ofJson_of_widens hs near (.same c.toData)

lemma isShort_of_inRange {i : Int} (h : InRange i) : IsShort k i :=
  Decimal.isShort_of_lt (natAbs_lt_of_inRange h (by decide))

/-- Lines only place robots in range. -/
theorem isNear_of_ofLine {line : String} (read : ofLine line = .ok (.ok c)) : c.IsNear k := by
  rcases ofLineChars_eq_ok_iff.mp read with ⟨w, word, -⟩ | ⟨-, x, y, h, placed, rfl⟩
  · cases word <;> trivial
  · obtain ⟨params, -, a, b, d, m, n, -, -, -, -, -, hx, hy, -⟩ := placed
    exact ⟨isShort_of_inRange hx, isShort_of_inRange hy⟩

/-- A command is read back from its record. So it is when the members of the record, and those of the
place in it, stand in another order and have simple members of other names among them. It is also read
back from the JSON text of such a record, in every style, if the texts in it are strings and no number
has more digits than the reader takes; with a place that has more, the text is refused. -/
theorem read_back_from_record (k : Counting) (c : Command) :
    (ofData k c.toData = .ok c ∧ ∀ counting d, d.Widens counting c.toData → ofData k d = .ok c) ∧
      ∀ s : Json.Style, s.Standard → ∀ d, d.Widens (some k) c.toData →
        (c.IsNear k → ofJson k (Json.toText s d) = .ok c) ∧
          (¬ c.IsNear k → ofJson k (Json.toText s d) = .fail .notJson) := by
  refine ⟨⟨ofData_toData k c, fun _ _ widened => ofData_of_widens k widened⟩, fun s hs d widened => ?_⟩
  exact ⟨fun near => ofJson_of_widens hs near widened,
    fun far => ofJson_of_not_isNear hs far widened⟩

/-- A placement is read although its members stand the other way round, there is a direction as turns
have one, and the place has a kind. One digit too many is refused. -/
theorem read_back_from_record_reversed :
    let c : Command := .place ⟨-3, 40⟩ .west
    let place : Members := [("x", .int (-3)), ("y", .int 40), ("kind", .null), ("", .bool true)].reverse
    let d : Data := .object [("kind", .text "place"), ("location", .object place),
      ("facing", .text "West"), ("direction", .text "Left"), ("steps", .int 7)].reverse
    let far : Command := .place ⟨0, 10 ^ Decimal.digitLimit⟩ .south
    c.IsNear .withSign ∧ Json.Style.log.Standard ∧ d.Widens (some .withSign) c.toData ∧
      ofData .withSign d = .ok c ∧ ofJson .withSign (Json.toText .log d) = .ok c ∧
      ¬ far.IsNear .withSign ∧ ofJson .withSign (Json.toText .log far.toData) = .fail .notJson := by
  intro c place d far
  have near : c.IsNear .withSign :=
    ⟨isShort_of_inRange (by decide), isShort_of_inRange (by decide)⟩
  have standard : Json.Style.log.Standard := Json.Style.standard_of_mem _ (by simp)
  have short : IsShort .withSign 7 := isShort_of_inRange (by decide)
  have inside : Data.Widens (some .withSign) (.object place) (Cell.toData ⟨-3, 40⟩) :=
    @Data.Widens.object _ _ _ (fun name => if name = "x" then .int (-3) else .int 40)
      (by simpa using ⟨.same _, .same _⟩)
      (@Members.Extends.intro _ _ _ [("kind", .null), ("", .bool true)] (List.reverse_perm _)
        (by decide) (by decide) (by simp [Data.IsSimple]))
  have widened : d.Widens (some .withSign) c.toData :=
    @Data.Widens.object _ _ _ (fun name => if name = "location" then .object place else
        if name = "kind" then .text "place" else .text "West")
      (by simpa [c, toMembers, tagKey, kind, Heading.toData, Heading.name] using
        ⟨.same _, inside, .same _⟩)
      (@Members.Extends.intro _ _ _ [("direction", .text "Left"), ("steps", .int 7)]
        (List.reverse_perm _) (by decide) (by decide) (by simpa [Data.IsSimple] using short))
  have tooFar : ¬ far.IsNear .withSign :=
    fun short => Int.lt_irrefl _ (Decimal.isShort_withSign_iff.mp short.2).1
  have read := read_back_from_record .withSign c
  have refused := (read_back_from_record .withSign far).2 .log standard far.toData (.same _)
  exact ⟨near, standard, widened, read.1.2 _ d widened, (read.2 .log standard d widened).1 near,
    tooFar, refused.2 tooFar⟩

/-- A record with a lone surrogate in it is a command, and its text is none. A place of as many digits
as there may be is read from a text, with a minus sign before them, only if the sign is not counted. -/
theorem record_not_read_back_from_text :
    let d : Data := .object [("kind", .text "move"), ("n", .unpaired [0xd800])]
    let edge : Command := .place ⟨-10 ^ (Decimal.digitLimit - 1), 0⟩ .north
    d.Widens none Command.move.toData ∧
      Json.toText .log d = "\x7b\"kind\": \"move\", \"n\": \"\\ud800\"\x7d" ∧
      (∀ k, ofData k d = .ok .move ∧ ofJson k (Json.toText .log d) = .fail .notJson) ∧
      edge.IsNear .withoutSign ∧
      ofJson .withoutSign (Json.toText .record edge.toData) = .ok edge ∧
      ofJson .withSign (Json.toText .record edge.toData) = .fail .notJson := by
  intro d edge
  have widened : d.Widens none Command.move.toData :=
    @Data.Widens.object _ _ _ (fun _ => .text "move") (by simpa [toMembers, tagKey, kind] using .same _)
      (@Members.Extends.intro _ _ _ [("n", .unpaired [0xd800])] (.refl _) (by decide) (by decide)
        (by simp [Data.IsSimple]))
  have text : Json.toText .log d = "\x7b\"kind\": \"move\", \"n\": \"\\ud800\"\x7d" := by decide
  have standard : Json.Style.record.Standard := Json.Style.standard_of_mem _ (by simp)
  have origin (k : Counting) : IsShort k 0 := isShort_of_inRange (by decide)
  have size : (-10 ^ (Decimal.digitLimit - 1) : Int).natAbs < 10 ^ Decimal.digitLimit := by
    rw [Int.natAbs_neg, Decimal.natAbs_ten_pow]
    exact Nat.pow_lt_pow_right (by decide) (by decide)
  have near : edge.IsNear .withoutSign := ⟨Decimal.isShort_withoutSign_iff.mpr size, origin _⟩
  have far : ¬ edge.IsNear .withSign :=
    fun short => Int.lt_irrefl _ (Decimal.isShort_withSign_iff.mp short.1).2
  refine ⟨widened, text, fun k => ⟨ofData_of_widens k widened, ?_⟩, near, ofJson_toText standard near,
    ofJson_of_not_isNear standard far (.same _)⟩
  rw [text]
  cases k <;> decide +kernel

end Command
end GridRobot
