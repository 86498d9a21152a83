import GridRobot.Proofs.Settings.Flags

/-! Flags by the names of settings: in any letter case, and the first for a setting counts. -/
namespace GridRobot
namespace Settings

variable {done flags : Members} {key : String}

/-- The value of the first flag that names a setting, in any letter case. -/
def flagged? (flags : Members) (key : String) : Option Data :=
  (flags.find? fun m => Environment.lower m.1 == key).map (·.2)

/-- Every flag names a setting. -/
def Named (flags : Members) : Prop := ∀ m ∈ flags, Environment.lower m.1 ∈ keys

/-- What is known of settings once one more flag is looked at. -/
def withFlag (ms : Members) (m : String × Data) : Members :=
  match keys.find? (· == Environment.lower m.1) with
  | some key => if ms.has key then ms else ms ++ [(key, m.2)]
  | none => ms ++ [m]

lemma ofFlags_eq_foldl (flags : Members) : ofFlags flags = flags.foldl withFlag [] := rfl

lemma find?_keys_eq {name : String} (hk : name ∈ keys) : keys.find? (· == name) = some name := by
  cases found : keys.find? (· == name) with
  | none => exact absurd (beq_self_eq_true name) (List.find?_eq_none.mp found name hk)
  | some k => exact congrArg some (by simpa using List.find?_some found)

lemma lower_of_mem (hk : key ∈ keys) : Environment.lower key = key := by
  have found := find?_lower_of_mem key hk
  exact (beq_iff_eq.mp (by simpa using List.find?_some found)).symm

/-- A flag for another setting, or for none, leaves a setting alone. -/
lemma get?_withFlag (hk : key ∈ keys) (m : String × Data) :
    (withFlag done m).get? key =
      (done.get? key).or (if Environment.lower m.1 = key then some m.2 else none) := by
  by_cases named : Environment.lower m.1 ∈ keys
  · rw [withFlag, find?_keys_eq named]
    simp only
    split
    · next has =>
      by_cases here : Environment.lower m.1 = key
      · obtain ⟨d, found⟩ := Option.ne_none_iff_exists'.mp
          (mt Members.get?_eq_none_iff.mp (not_not.mpr (Members.has_eq_true_iff.mp has)))
        rw [here] at found
        rw [found, Option.some_or]
      · rw [if_neg here, Option.or_none]
    · rw [Members.get?_append, Members.get?_cons]
      rfl
  · have other : m.1 ≠ key := fun same => named (by rw [same, lower_of_mem hk]; exact hk)
    have apart : Environment.lower m.1 ≠ key := fun same => named (same ▸ hk)
    have unknown : keys.find? (· == Environment.lower m.1) = none :=
      List.find?_eq_none.mpr fun k h same => named (beq_iff_eq.mp same ▸ h)
    rw [withFlag, unknown, if_neg apart]
    simp only [Members.get?_append, Members.get?_cons, if_neg other]
    rfl

theorem get?_ofFlags (hk : key ∈ keys) (flags : Members) :
    (ofFlags flags).get? key = flagged? flags key := by
  have from_any (done : Members) :
      (flags.foldl withFlag done).get? key = (done.get? key).or (flagged? flags key) := by
    induction flags generalizing done with
    | nil => exact (Option.or_none ..).symm
    | cons m flags ih =>
      rw [List.foldl_cons, ih, get?_withFlag hk, Option.or_assoc, flagged?, flagged?, List.find?_cons]
      by_cases here : Environment.lower m.1 = key
      · simp [here]
      · rw [if_neg here, Option.none_or, beq_eq_false_iff_ne.mpr here]
  exact (from_any []).trans (Option.none_or ..)

/-- Flags that name settings give every setting at most once. -/
theorem nodup_ofFlags (named : Named flags) :
    ((ofFlags flags).map Prod.fst).Nodup ∧ ∀ k ∈ (ofFlags flags).map Prod.fst, k ∈ keys := by
  have from_any (done : Members) (distinct : (done.map Prod.fst).Nodup)
      (known : ∀ k ∈ done.map Prod.fst, k ∈ keys) :
      ((flags.foldl withFlag done).map Prod.fst).Nodup ∧
        ∀ k ∈ (flags.foldl withFlag done).map Prod.fst, k ∈ keys := by
    induction flags generalizing done with
    | nil => exact ⟨distinct, known⟩
    | cons m flags ih =>
      have later : Named flags := fun l hl => named l (List.mem_cons_of_mem _ hl)
      have here := named m List.mem_cons_self
      rw [List.foldl_cons]
      rw [withFlag, find?_keys_eq here]
      simp only
      split
      · exact ih later done distinct known
      · next absent =>
        have new : Environment.lower m.1 ∉ done.map Prod.fst := mt Members.has_eq_true_iff.mpr absent
        refine ih later _ ?_ ?_
        · rw [← Members.set_of_not_mem new]
          exact Members.nodup_set distinct _ _
        · rw [← Members.set_of_not_mem new]
          intro k hk
          rcases Members.mem_names_set.mp hk with rfl | old
          · exact here
          · exact known k old
  exact from_any [] List.nodup_nil (fun _ hk => nomatch hk)

/-- A flag that names no setting is kept as it is. -/
theorem mem_ofFlags {m : String × Data} (unknown : Environment.lower m.1 ∉ keys) (hm : m ∈ flags) :
    m ∈ ofFlags flags := by
  have kept (l : String × Data) (done : Members) (old : m ∈ done) : m ∈ withFlag done l := by
    rw [withFlag]
    split
    · split
      · exact old
      · exact List.mem_append_left _ old
    · exact List.mem_append_left _ old
  have added (done : Members) : m ∈ withFlag done m := by
    have none : keys.find? (· == Environment.lower m.1) = none :=
      List.find?_eq_none.mpr fun k h same => unknown (beq_iff_eq.mp same ▸ h)
    rw [withFlag, none]
    exact List.mem_append_right _ (List.mem_singleton.mpr rfl)
  obtain ⟨before, after, rfl⟩ := List.append_of_mem hm
  rw [ofFlags_eq_foldl, List.foldl_append, List.foldl_cons]
  exact List.foldlRecOn after withFlag (added _) fun done old l _ => kept l done old

end Settings
end GridRobot
