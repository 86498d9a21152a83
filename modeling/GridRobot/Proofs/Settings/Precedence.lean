import GridRobot.Proofs.Config.Overrides
import GridRobot.Proofs.Settings.Keywords
import GridRobot.Proofs.Settings.Variables

/-! The members that are checked in the end: what decides each value, of a section or on its own. -/
namespace GridRobot

open Environment (atop IsSection)
open Schema (Reads)

namespace Environment

/-- What passes a check that passes no object stays as it is above anything. -/
lemma atop_of_accepted {α : Type} {check : Data → Checked α} {low high : Option Data}
    (plain : ∀ ms a, check (.object ms) ≠ .ok a)
    (accepted : ∀ d ∈ high.or low, ∃ a, check d = .ok a) : atop low high = high.or low := by
  refine atop_eq_or fun ms same => ?_
  rw [same, Option.some_or] at accepted
  obtain ⟨a, checked⟩ := accepted _ rfl
  exact plain ms a checked

end Environment

namespace Leaf

variable {α : Type} (l : Leaf α) (limits : Limits) (document : Members) (e : Environment)
  (flags : Members)

/-- The first that sets a key: a flag for its section, the variable for it, the variable with JSON for
its section, or the file. -/
def deciding? : Option Data :=
  [(Settings.flagged? flags l.group).bind (Data.under? l.key), e.own? l.group l.key,
    (e.json? limits l.group).bind (Data.under? l.key), l.find? document].findSome? id

/-- A value is what its check makes of what decides it, or the standard if nothing does. -/
def Decided (value : α) : Prop :=
  match l.deciding? limits document e flags with
  | some d => l.check d = .ok value
  | none => value = l.standard

/-- What decides a value is accepted; what is overridden may be anything. -/
def Acceptable : Prop := ∀ d ∈ l.deciding? limits document e flags, ∃ a, l.check d = .ok a

variable {l limits document e flags}

lemma acceptable_of_check {d : Data} {a : α}
    (found : l.deciding? limits document e flags = some d) (checked : l.check d = .ok a) :
    l.Acceptable limits document e flags := by
  intro d' same
  obtain rfl : d = d' := Option.some.inj (found.symm.trans same)
  exact ⟨a, checked⟩

lemma Decided.eq {d : Data} {a value : α} (decided : l.Decided limits document e flags value)
    (found : l.deciding? limits document e flags = some d) (checked : l.check d = .ok a) :
    value = a := by
  rw [Decided, found] at decided
  exact Except.ok.inj (decided.symm.trans checked)

lemma decided_of_reads {o : Option α} (h : Reads l.check (l.deciding? limits document e flags) o) :
    l.Decided limits document e flags (o.getD l.standard) := by
  rw [Decided]
  generalize l.deciding? limits document e flags = given at h ⊢
  cases h with
  | none => rfl
  | some checked => exact checked

lemma deciding?_eq : l.deciding? limits document e flags =
    (((Settings.flagged? flags l.group).bind (Data.under? l.key)).or <|
      (e.own? l.group l.key).or <|
      ((e.json? limits l.group).bind (Data.under? l.key)).or (l.find? document)) := by
  rw [deciding?]
  cases (Settings.flagged? flags l.group).bind (Data.under? l.key) <;>
    cases e.own? l.group l.key <;>
      cases (e.json? limits l.group).bind (Data.under? l.key) <;>
        cases l.find? document <;> rfl

/-- JSON under a variable for the key, both under a flag, and all over what the file passes on. -/
theorem exists_reads (acceptable : l.Acceptable limits document e flags) {overrides : Members}
    (carried : l.Carried document overrides) :
    ∃ o, Reads l.check (atop (l.find? overrides)
        (atop (atop ((e.json? limits l.group).bind (Data.under? l.key)) (e.own? l.group l.key))
          ((Settings.flagged? flags l.group).bind (Data.under? l.key)))) o ∧
      Reads l.check (l.deciding? limits document e flags) o := by
  obtain ⟨o, reads, written⟩ := carried
  rw [Acceptable, deciding?_eq] at acceptable
  rw [deciding?_eq]
  have stays {d : Data} {a : α} (low : Option Data) (checked : l.check d = .ok a) :
      atop low (some d) = some d :=
    Environment.atop_of_accepted l.plain (by simpa using ⟨a, checked⟩)
  -- by the highest source that sets the key: what is above it adds nothing
  generalize (Settings.flagged? flags l.group).bind (Data.under? l.key) = flag at acceptable ⊢
  generalize e.own? l.group l.key = own at acceptable ⊢
  generalize (e.json? limits l.group).bind (Data.under? l.key) = json at acceptable ⊢
  cases flag with
  | some d =>
    obtain ⟨a, checked⟩ := acceptable d rfl
    rw [stays _ checked, stays _ checked]
    exact ⟨some a, .some checked, .some checked⟩
  | none =>
    cases own with
    | some d =>
      obtain ⟨a, checked⟩ := acceptable d rfl
      rw [stays _ checked, atop, stays _ checked]
      exact ⟨some a, .some checked, .some checked⟩
    | none =>
      cases json with
      | some d =>
        obtain ⟨a, checked⟩ := acceptable d rfl
        rw [atop, atop, stays _ checked]
        exact ⟨some a, .some checked, .some checked⟩
      | none =>
        rw [atop, atop, atop, written]
        exact ⟨o, Schema.reads_map l.passes o, reads⟩

end Leaf

namespace Settings

variable {limits : Limits} {counting : Decimal.Counting} {file vars flags ms : Members}
  {key : String} {e : Environment} {c : Config}

lemma get?_merged (distinct : (vars.map Prod.fst).Nodup) (own : (flags.map Prod.fst).Nodup) :
    (merged file vars flags).get? key =
      atop (file.get? key) (atop (vars.get? key) (flags.get? key)) := by
  rw [merged, Environment.get?_mergeInto_eq_atop (Environment.nodup_mergeInto distinct flags),
    Environment.get?_mergeInto_eq_atop own]

/-- A section is put together key by key, so no source resets what another one sets. -/
theorem find?_merged {α : Type} (l : Leaf α) (distinct : (vars.map Prod.fst).Nodup)
    (own : (flags.map Prod.fst).Nodup) (low : IsSection (file.get? l.group))
    (middle : IsSection (vars.get? l.group)) (high : IsSection (flags.get? l.group)) :
    IsSection ((merged file vars flags).get? l.group) ∧
      l.find? (merged file vars flags) =
        atop (l.find? file) (atop (l.find? vars) (l.find? flags)) := by
  have upper := Environment.isSection_atop middle high
  rw [Leaf.find?, get?_merged distinct own, Environment.under?_atop low upper,
    Environment.under?_atop middle high]
  exact ⟨Environment.isSection_atop low upper, rfl⟩

lemma noOthers_of_known (known : ∀ k ∈ ms.map Prod.fst, k ∈ keys) : noOthers ms = .ok () := by
  have none : (ms.filter fun m => !keys.contains m.1) = [] := by
    rw [List.filter_eq_nil_iff]
    intro m hm
    simpa using known m.1 (List.mem_map_of_mem hm)
  rw [noOthers, none]
  rfl

lemma names_overrides (c : Config) : ∀ k ∈ c.overrides.map Prod.fst, k ∈ ["board", "map"] := by
  obtain ⟨size, glyphs⟩ := c
  cases size <;> cases glyphs <;> simp [Config.overrides]

/-- Only settings are put together, so nothing unknown is found among them. -/
lemma names_merged (named : Named flags) (read : e.settings limits = .ok vars) :
    ∀ k ∈ (merged c.overrides vars (ofFlags flags)).map Prod.fst, k ∈ keys := by
  intro k hk
  rcases Environment.mem_names_mergeInto.mp hk with low | upper
  · exact (by decide : ["board", "map"] ⊆ keys) (names_overrides c k low)
  · rcases Environment.mem_names_mergeInto.mp upper with middle | high
    · exact (by decide : ["json_output", "verbose", "log_json", "board", "map"] ⊆ keys)
        ((Environment.names_settings read).subset middle)
    · exact (nodup_ofFlags named).2 k high

/-- A key that is no setting is complained about. -/
lemma noOthers_of_unknown (hk : key ∈ ms.map Prod.fst) (unknown : key ∉ keys) :
    ∃ is, noOthers ms = .error is ∧ ⟨[.key key], .unexpected⟩ ∈ is := by
  obtain ⟨m, hm, rfl⟩ := List.mem_map.mp hk
  have other : m ∈ ms.filter fun m => !keys.contains m.1 :=
    List.mem_filter.mpr ⟨hm, by simpa using unknown⟩
  have complaint := List.mem_map_of_mem
    (f := fun m => ({ path := [.key m.1], fault := .unexpected } : Issue)) other
  rw [noOthers]
  split
  · next none =>
    rw [none] at complaint
    cases complaint
  · exact ⟨_, rfl, complaint⟩

/-- Members with a key that is no setting are refused, whatever else is wrong with them. -/
theorem ofMembers_of_unknown (path : Option FilePath) (hk : key ∈ ms.map Prod.fst)
    (unknown : key ∉ keys) :
    ∃ is, ofMembers counting path ms = .error is ∧ ⟨[.key key], .unexpected⟩ ∈ is := by
  obtain ⟨is, refused, complaint⟩ := noOthers_of_unknown hk unknown
  obtain ⟨is₁, refused, sub₁⟩ := Checked.both_of_error
    (Schema.withDefault ms "map" ⟨none, none⟩ PartialGlyphs.ofData) refused
  obtain ⟨is₂, refused, sub₂⟩ := Checked.both_of_error
    (Schema.withDefault ms "board" ⟨none, none⟩ (PartialSize.ofData counting)) refused
  obtain ⟨is₃, refused, sub₃⟩ := Checked.both_of_error
    (Schema.withDefault ms "log_json" false Schema.bool) refused
  obtain ⟨is₄, refused, sub₄⟩ := Checked.both_of_error
    (Schema.withDefault ms "verbose" false Schema.bool) refused
  obtain ⟨is₅, refused, sub₅⟩ := Checked.both_of_error
    (Schema.withDefault ms "json_output" false Schema.bool) refused
  refine ⟨is₅, ?_, sub₅ (sub₄ (sub₃ (sub₂ (sub₁ complaint))))⟩
  rw [ofMembers]
  simp only [refused]
  rfl

end Settings

/-- What holds of two keys of a section that is read: if it is not given, neither is. -/
lemma Schema.withDefault_of_pair {α β γ : Type} {ms : Members} (l : Leaf α) (k : Leaf β)
    {whole : Data → Checked γ} {a : Option α} {b : Option β} {standard c : γ}
    (same : k.group = l.group) (given : IsSection (ms.get? l.group))
    (first : Reads l.check (l.find? ms) a) (second : Reads k.check (k.find? ms) b)
    (absent : a = none → b = none → standard = c)
    (present : ∀ inner : Members, Reads l.check (inner.get? l.key) a →
      Reads k.check (inner.get? k.key) b → whole (.object inner) = .ok c) :
    Schema.withDefault ms l.group standard whole = .ok c := by
  rw [Leaf.find?] at first second
  rw [same] at second
  rcases given.cases with missing | ⟨inner, found, -⟩
  · rw [missing] at first second
    cases first
    cases second
    rw [Schema.withDefault, Schema.optional, missing, ← absent rfl rfl]
    rfl
  · rw [found] at first second
    exact Schema.withDefault_of_get? found (present inner first second)

namespace Settings

variable {counting : Decimal.Counting} {ms : Members}

/-- Settings whose members all pass, value by value. -/
theorem ofMembers_of_reads (path : Option FilePath) {w h : Option Extent} {b o : Option Char}
    (known : ∀ k ∈ ms.map Prod.fst, k ∈ keys)
    (switches : ∀ name ∈ Environment.switches, ∃ b, Reads Schema.bool (ms.get? name) b)
    (board : IsSection (ms.get? "board")) (map : IsSection (ms.get? "map"))
    (width : Reads (Leaf.width counting).check ((Leaf.width counting).find? ms) w)
    (height : Reads (Leaf.height counting).check ((Leaf.height counting).find? ms) h)
    (blank : Reads Leaf.blank.check (Leaf.blank.find? ms) b)
    (obstacle : Reads Leaf.obstacle.check (Leaf.obstacle.find? ms) o) :
    ∃ s, ofMembers counting path ms = .ok s ∧
      s.size.width = w.getD (Leaf.width counting).standard ∧
      s.size.height = h.getD (Leaf.height counting).standard ∧
      s.glyphs.blank = b.getD Leaf.blank.standard ∧
      s.glyphs.obstacle = o.getD Leaf.obstacle.standard := by
  have size : Schema.withDefault ms "board" ⟨none, none⟩ (PartialSize.ofData counting) =
      .ok ⟨w, h⟩ :=
    Schema.withDefault_of_pair (.width counting) (.height counting) rfl board width height
      (fun hw hh => by rw [hw, hh])
      (fun _ hw hh => PartialSize.ofData_object_eq_ok_iff.mpr ⟨hw, hh⟩)
  have glyphs : Schema.withDefault ms "map" ⟨none, none⟩ PartialGlyphs.ofData = .ok ⟨b, o⟩ :=
    Schema.withDefault_of_pair Leaf.blank Leaf.obstacle rfl map blank obstacle
      (fun hb ho => by rw [hb, ho])
      (fun _ hb ho => PartialGlyphs.ofData_object_eq_ok_iff.mpr ⟨hb, ho⟩)
  obtain ⟨j, json⟩ := switches "json_output" (by decide)
  obtain ⟨v, verbose⟩ := switches "verbose" (by decide)
  obtain ⟨l, log⟩ := switches "log_json" (by decide)
  rw [ofMembers]
  simp only [Schema.withDefault_of_reads false json, Schema.withDefault_of_reads false verbose,
    Schema.withDefault_of_reads false log, size, glyphs, noOthers_of_known known]
  exact ⟨_, rfl, rfl, rfl, rfl, rfl⟩

end Settings
end GridRobot
