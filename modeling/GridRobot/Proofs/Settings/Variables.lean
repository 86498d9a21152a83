import GridRobot.Proofs.Data.Json.Names
import GridRobot.Proofs.Settings.Layers

/-! What variables give to a section: JSON for the whole of it, under variables for single keys. -/
namespace GridRobot
namespace Environment

variable {l : Limits} {e : Environment} {vars ms : Members} {field key name : String}
  {known : List String}

/-- The text of the last variable that has a name in any letter case. -/
def value? (e : Environment) (name : String) : Option String :=
  (e.reverse.find? fun v => lower v.1 == name).map (·.2)

/-- The JSON that a variable holds for a section. -/
def json? (l : Limits) (e : Environment) (field : String) : Option Data :=
  (e.value? (namePrefix ++ field)).bind fun s => (Json.ofText (dialect l) s).toOption

/-- The text of the variable for one key of a section. -/
def own? (e : Environment) (field key : String) : Option Data :=
  (e.value? (namePrefix ++ field ++ "__" ++ key)).map .text

/-- Variables speak of a section as one is meant to: in JSON as an object that spells the known keys
as they are, and in variables of their own of known keys only. -/
structure Speaks (l : Limits) (e : Environment) (field : String) (known : List String) :
    Prop where
  json : ∀ s ∈ e.value? (namePrefix ++ field), ∃ ms,
    Json.ofText (dialect l) s = .ok (.object ms) ∧ ∀ m ∈ ms, lower m.1 ∈ known → lower m.1 = m.1
  own : ∀ v ∈ e, ∀ key, lower v.1 = namePrefix ++ field ++ "__" ++ key → key ∈ known

lemma get?_values (e : Environment) (name : String) :
    e.values.get? name = (e.value? name).map .text := by
  rw [values, Members.get?_ofList, Members.get?, ← List.map_reverse, List.find?_map, value?]
  simp only [Option.map_map]
  rfl

lemma nodup_values (e : Environment) : (e.values.map Prod.fst).Nodup := Members.nodup_ofList _

lemma after?_eq_some_iff {start : String} {rest : List Char} :
    after? start name = some rest ↔ name = start ++ String.ofList rest := by
  rw [after?]
  constructor
  · intro found
    split at found
    · next front =>
      obtain ⟨tail, split⟩ := List.isPrefixOf_iff_prefix.mp front
      obtain rfl := Option.some.inj found
      rw [← split, List.drop_left, ← String.toList_inj, String.toList_append, String.toList_ofList,
        split]
    · cases found
  · rintro rfl
    have front : start.toList.isPrefixOf (start ++ String.ofList rest).toList = true := by
      rw [List.isPrefixOf_iff_prefix, String.toList_append]
      exact List.prefix_append _ _
    rw [if_pos front, String.toList_append, List.drop_left, String.toList_ofList]

/-- The variables for single keys of a section, each with the rest of its name. -/
def ownMembers (vars : Members) (field : String) : Members :=
  vars.filterMap fun v =>
    (after? (namePrefix ++ field ++ "__") v.1).map fun rest => (String.ofList rest, v.2)

lemma get?_ownMembers (vars : Members) :
    (ownMembers vars field).get? key = vars.get? (namePrefix ++ field ++ "__" ++ key) := by
  induction vars with
  | nil => rfl
  | cons v vars ih =>
    rw [ownMembers, List.filterMap_cons, Members.get?_cons]
    cases found : after? (namePrefix ++ field ++ "__") v.1 with
    | none =>
      have other : v.1 ≠ namePrefix ++ field ++ "__" ++ key := by
        intro same
        rw [← String.ofList_toList (s := key)] at same
        rw [after?_eq_some_iff.mpr same] at found
        cases found
      rw [if_neg other]
      exact ih
    | some rest =>
      have same : v.1 = namePrefix ++ field ++ "__" ++ key ↔ String.ofList rest = key := by
        rw [after?_eq_some_iff.mp found, String.append_right_inj]
      simp only [Option.map_some, Members.get?_cons, same]
      by_cases here : String.ofList rest = key
      · rw [if_pos here, if_pos here]
      · rw [if_neg here, if_neg here]
        exact ih

lemma foldl_putNested (simple : ∀ m ∈ ownMembers vars field,
    (keys m.1.toList).map String.ofList = [m.1]) (done : Members) :
    vars.foldl
      (fun ms v =>
        match after? (namePrefix ++ field ++ "__") v.1 with
        | some rest => putNested v.2 ((keys rest).map String.ofList) ms
        | none => ms)
      done = (ownMembers vars field).foldl (fun ms m => ms.set m.1 m.2) done := by
  induction vars generalizing done with
  | nil => rfl
  | cons v vars ih =>
    rw [ownMembers, List.filterMap_cons] at simple ⊢
    rw [List.foldl_cons]
    cases found : after? (namePrefix ++ field ++ "__") v.1 with
    | none =>
      rw [found] at simple
      exact ih simple done
    | some rest =>
      rw [found] at simple
      have one := simple (String.ofList rest, v.2) List.mem_cons_self
      rw [String.toList_ofList] at one
      simp only [Option.map_some, List.foldl_cons, one, putNested]
      exact ih (fun m hm => simple m (List.mem_cons_of_mem _ hm)) _

/-- A name in small letters, without a pair of underscores in it. -/
def IsSimple (name : String) : Prop :=
  lower name = name ∧ (keys name.toList).map String.ofList = [name]

instance (name : String) : Decidable (IsSimple name) := by unfold IsSimple; infer_instance

section

variable (h : e.Speaks l field known) (simple : ∀ k ∈ known, IsSimple k)

include h in
lemma name_mem_known {name : String} (given : name ∈ (ownMembers e.values field).map Prod.fst) :
    name ∈ known := by
  have present : e.value? (namePrefix ++ field ++ "__" ++ name) ≠ none := by
    intro absent
    refine Members.get?_eq_none_iff.mp ?_ given
    rw [get?_ownMembers, get?_values, absent]
    rfl
  obtain ⟨s, found⟩ := Option.ne_none_iff_exists'.mp present
  obtain ⟨v, hv, -⟩ := Option.map_eq_some_iff.mp found
  have same := List.find?_some hv
  exact h.own v (List.mem_reverse.mp (List.mem_of_find?_eq_some hv)) name (beq_iff_eq.mp same)

include h simple in
lemma nested_values : nested e.values field = Members.ofList (ownMembers e.values field) :=
  foldl_putNested (fun _ hm => (simple _ (name_mem_known h (List.mem_map_of_mem hm))).2) []

include h simple in
lemma get?_nested (key : String) : (nested e.values field).get? key = e.own? field key := by
  rw [nested_values h simple, Members.get?_ofList, ownMembers, ← List.filterMap_reverse, ← ownMembers,
    get?_ownMembers, Members.get?_reverse (nodup_values e), get?_values, own?]

include h simple in
lemma nodup_nested : ((nested e.values field).map Prod.fst).Nodup := by
  rw [nested_values h simple]
  exact Members.nodup_ofList _

include h simple in
lemma nested_known (hm : name ∈ (nested e.values field).map Prod.fst) : name ∈ known := by
  refine name_mem_known h ?_
  by_contra absent
  refine Members.get?_eq_none_iff.mp ?_ hm
  rw [← Members.get?_eq_none_iff, get?_ownMembers, get?_values] at absent
  rw [get?_nested h simple, own?]
  exact absent

/-- Names that are known only as they are spelled stay as they are. -/
lemma renamed_eq_self (spelled : ∀ m ∈ ms, lower m.1 ∈ known → lower m.1 = m.1)
    (distinct : (ms.map Prod.fst).Nodup) : renamed known ms = ms := by
  have same : (ms.map fun m => ((known.find? fun k => k == lower m.1).getD m.1, m.2)) = ms := by
    refine (List.map_congr_left fun m hm => ?_).trans (List.map_id ms)
    cases found : known.find? fun k => k == lower m.1 with
    | none => rfl
    | some k =>
      have low : k = lower m.1 := by simpa using List.find?_some found
      have hk := List.mem_of_find?_eq_some found
      rw [low] at hk
      rw [Option.getD_some, low, spelled m hm hk]
      rfl
  rw [renamed, same, Members.ofList_of_nodup distinct]

include h simple in
/-- Variables that speak of a section as one is meant to are read, and for every key the variable of
its own is put over the JSON. -/
theorem section?_of_speaks : ∃ d, section? l e.values field known = .ok d ∧ IsSection d ∧
    ∀ key, d.bind (Data.under? key) =
      atop ((e.json? l field).bind (Data.under? key)) (e.own? field key) := by
  have distinct := nodup_nested h simple
  cases given : e.value? (namePrefix ++ field) with
  | none =>
    have read : section? l e.values field known =
        .ok (if (nested e.values field).isEmpty then none
          else some (.object (renamed known (nested e.values field)))) := by
      rw [section?, get?_values, given]
      rfl
    have own : renamed known (nested e.values field) = nested e.values field :=
      renamed_eq_self
        (fun m hm _ => (simple m.1 (nested_known h simple (List.mem_map_of_mem hm))).1) distinct
    rw [own] at read
    have below : e.json? l field = none := by rw [json?, given]; rfl
    -- Without JSON there is a section only if some key has a variable of its own.
    by_cases empty : (nested e.values field).isEmpty
    · rw [if_pos empty] at read
      refine ⟨none, read, isSection_none, fun key => ?_⟩
      rw [below, ← get?_nested h simple, List.isEmpty_iff.mp empty]
      rfl
    · rw [if_neg empty] at read
      refine ⟨_, read, isSection_object distinct, fun key => ?_⟩
      rw [below, ← get?_nested h simple]
      cases found : (nested e.values field).get? key with
      | none => exact found
      | some d => exact found
  | some s =>
    obtain ⟨ms, text, spelled⟩ := h.json s given
    have names := Json.nodup_of_ofText text
    have exact : renamed known (mergeInto ms (nested e.values field)) =
        mergeInto ms (nested e.values field) := by
      refine renamed_eq_self (fun m hm hk => ?_) (nodup_mergeInto names _)
      -- A name is one of the JSON, or one of a variable and then spelled as it is known.
      rcases mem_names_mergeInto.mp (List.mem_map_of_mem hm) with below | above
      · obtain ⟨l, hl, same⟩ := List.mem_map.mp below
        rw [← same] at hk ⊢
        exact spelled l hl hk
      · exact (simple m.1 (nested_known h simple above)).1
    have read : section? l e.values field known =
        .ok (some (.object (renamed known (mergeInto ms (nested e.values field))))) := by
      rw [section?, get?_values, given]
      simp only [Option.map_some, text]
    rw [exact] at read
    have below : e.json? l field = some (.object ms) := by
      rw [json?, given, Option.bind_some, text]
      rfl
    refine ⟨_, read, isSection_object (nodup_mergeInto names _), fun key => ?_⟩
    rw [below, ← get?_nested h simple]
    exact get?_mergeInto_eq_atop distinct

end

/-- JSON that is not read keeps all variables from being read. -/
lemma settings_of_unreadable {s : String} (given : e.value? (namePrefix ++ "board") = some s)
    (fails : Json.ofText (dialect l) s = .error .malformed) :
    e.settings l = .error (.unreadable ⟨"board"⟩) := by
  rw [settings, section?, get?_values, given]
  simp only [Option.map_some, fails]
  rfl

/-- What variables give for a setting that is no section. -/
def single? (e : Environment) (field : String) : Option Data :=
  (e.value? (namePrefix ++ field)).map .text

lemma get?_named (field key : String) (d : Option Data) :
    Members.get? ((d.map fun d => (field, d)).toList) key = if field = key then d else none := by
  rw [Members.get?_toList (fun d => d), Option.map_id']

lemma get?_single (e : Environment) (field key : String) :
    (single e.values field).get? key = if field = key then e.single? field else none := by
  rw [single, get?_named, get?_values, single?]

/-- The settings that are no sections. -/
def switches : List String := ["json_output", "verbose", "log_json"]

/-- The sections and their keys. -/
def sections : List (String × List String) :=
  [("board", ["width", "height"]), ("map", ["empty", "obstacle"])]

/-- Variables that speak of both sections as one is meant to give every setting on its own. -/
theorem settings_of_speaks (speaks : ∀ s ∈ sections, e.Speaks l s.1 s.2) :
    ∃ vars, e.settings l = .ok vars ∧
      (∀ field ∈ switches, vars.get? field = e.single? field) ∧
      ∀ s ∈ sections, IsSection (vars.get? s.1) ∧ ∀ key,
        (vars.get? s.1).bind (Data.under? key) =
          atop ((e.json? l s.1).bind (Data.under? key)) (e.own? s.1 key) := by
  have simple : ∀ s ∈ sections, ∀ k ∈ s.2, IsSimple k := by decide +kernel
  have read (s) (hs : s ∈ sections) := section?_of_speaks (speaks s hs) (simple s hs)
  obtain ⟨board, readBoard, isBoard, boardKeys⟩ := read ("board", ["width", "height"]) (by decide)
  obtain ⟨map, readMap, isMap, mapKeys⟩ := read ("map", ["empty", "obstacle"]) (by decide)
  refine ⟨single e.values "json_output" ++ single e.values "verbose" ++
    single e.values "log_json" ++ (board.map fun d => ("board", d)).toList ++
    (map.map fun d => ("map", d)).toList, ?_, ?_, ?_⟩
  · rw [settings]
    simp only [readBoard, readMap]
    rfl
  · intro field hf
    simp only [Members.get?_append, get?_single, get?_named]
    simp only [switches, List.mem_cons, List.not_mem_nil, or_false] at hf
    rcases hf with rfl | rfl | rfl <;> simp
  · intro s hs
    simp only [Members.get?_append, get?_single, get?_named]
    simp only [sections, List.mem_cons, List.not_mem_nil, or_false] at hs
    rcases hs with rfl | rfl
    · simpa using ⟨isBoard, boardKeys⟩
    · simpa using ⟨isMap, mapKeys⟩

end Environment
end GridRobot
