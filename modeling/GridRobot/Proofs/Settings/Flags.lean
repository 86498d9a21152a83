import GridRobot.Cli
import GridRobot.Proofs.Result
import GridRobot.Proofs.Schema.Checked
import GridRobot.Proofs.Settings.Merge
import Mathlib.Tactic.Lemma

/-! A switch on the command line decides its setting, whatever the file and the variables say. -/
namespace GridRobot

namespace Environment

lemma names_toList (field : String) (d : Option Data) :
    (((d.map fun d => (field, d)).toList).map Prod.fst).Sublist [field] := by
  cases d with
  | none => exact List.nil_sublist _
  | some d => exact List.Sublist.refl _

lemma names_settings {l : Limits} {e : Environment} {vars : Members}
    (read : e.settings l = .ok vars) :
    (vars.map Prod.fst).Sublist ["json_output", "verbose", "log_json", "board", "map"] := by
  obtain ⟨board, -, later⟩ := bind_eq_ok_iff.mp read
  obtain ⟨map, -, same⟩ := bind_eq_ok_iff.mp later
  cases same
  simp only [List.map_append]
  exact ((((names_toList _ _).append (names_toList _ _)).append (names_toList _ _)).append
    (names_toList _ _)).append (names_toList _ _)

/-- Variables give every setting at most once. -/
theorem nodup_settings {l : Limits} {e : Environment} {vars : Members}
    (read : e.settings l = .ok vars) : (vars.map Prod.fst).Nodup :=
  (names_settings read).nodup (by decide)

end Environment

namespace Settings

variable {l : Limits} {t : FileTree} {e : Environment} {explicit : Option String} {start : Option FilePath}
  {done file vars flags : Members} {key : String} {b : Bool}

lemma find?_lower_of_mem : ∀ k ∈ keys, keys.find? (· == Environment.lower k) = some k := by
  decide +kernel

lemma foldl_flags (known : ∀ m ∈ flags, m.1 ∈ keys)
    (distinct : ((done ++ flags).map Prod.fst).Nodup) :
    flags.foldl
      (fun ms m =>
        match keys.find? (· == Environment.lower m.1) with
        | some key => if ms.has key then ms else ms ++ [(key, m.2)]
        | none => ms ++ [m])
      done = done ++ flags := by
  induction flags generalizing done with
  | nil => simp
  | cons m flags ih =>
    have absent : ¬ done.has m.1 = true :=
      mt Members.has_eq_true_iff.mp (Members.not_mem_of_nodup distinct)
    have later : ∀ l ∈ flags, l.1 ∈ keys := fun l hl => known l (List.mem_cons_of_mem _ hl)
    rw [List.foldl_cons, find?_lower_of_mem m.1 (known m List.mem_cons_self)]
    simp only [if_neg absent]
    rw [ih later (by simpa using distinct), List.append_assoc]
    rfl

/-- Flags that are named like the settings stay as they are. -/
theorem ofFlags_of_known (known : ∀ m ∈ flags, m.1 ∈ keys)
    (distinct : (flags.map Prod.fst).Nodup) : ofFlags flags = flags := by
  have start : (([] ++ flags).map Prod.fst).Nodup := distinct
  exact foldl_flags known start

lemma get?_merged_of_flag (distinct : (vars.map Prod.fst).Nodup) (own : (flags.map Prod.fst).Nodup)
    (flag : flags.get? key = some (.bool b)) :
    (merged file vars flags).get? key = some (.bool b) := by
  have upper : (Environment.mergeInto vars flags).get? key = some (.bool b) :=
    Environment.get?_mergeInto_bool own flag
  exact Environment.get?_mergeInto_bool (Environment.nodup_mergeInto distinct flags) upper

/-- The configuration at the path that is used, if one is. -/
def configAt (l : Limits) (t : FileTree) : Option FilePath → Except Fault Config
  | none => .ok .standard
  | some p => (Config.load l t (some p)).mapError (.config p)

/-- What is put together before the flags are: the file that is used, and the variables. -/
def sources (l : Limits) (t : FileTree) (e : Environment) (explicit : Option String)
    (start : Option FilePath) : Except Fault (Option FilePath × Config × Members) := do
  let path ← (Config.select t e explicit start).mapError .search
  let config ← configAt l t path
  let vars ← (e.settings l).mapError .environment
  return (path, config, vars)

lemma settings_of_sources {p : Option FilePath × Config × Members}
    (found : sources l t e explicit start = .ok p) : e.settings l = .ok p.2.2 := by
  obtain ⟨path, -, found⟩ := bind_eq_ok_iff.mp found
  obtain ⟨config, -, found⟩ := bind_eq_ok_iff.mp found
  obtain ⟨vars, read, same⟩ := bind_eq_ok_iff.mp found
  cases same
  exact mapError_eq_ok_iff.mp read

lemma load_eq_bind_sources (l : Limits) (t : FileTree) (e : Environment)
    (explicit : Option String) (start : Option FilePath) (flags : Members) :
    load l t e explicit start flags = sources l t e explicit start >>= fun p =>
      ((ofMembers l.counting p.1 (merged p.2.1.overrides p.2.2 (ofFlags flags))).titled
        recordName).mapError .rejected := by
  rw [load, sources]
  cases Config.select t e explicit start with
  | error f => rfl
  | ok path =>
    cases path with
    | none => cases e.settings l <;> rfl
    | some p =>
      show ((Config.load l t (some p)).mapError (Fault.config p) >>= _) =
        ((Config.load l t (some p)).mapError (Fault.config p) >>= _) >>= _
      cases Config.load l t (some p) with
      | error f => rfl
      | ok c => cases e.settings l <;> rfl

lemma load_of_sources {p : Option FilePath × Config × Members}
    (found : sources l t e explicit start = .ok p) (flags : Members) :
    load l t e explicit start flags =
      ((ofMembers l.counting p.1 (merged p.2.1.overrides p.2.2 (ofFlags flags))).titled
        recordName).mapError .rejected := by
  rw [load_eq_bind_sources, found]
  rfl

/-- Settings are the checked members of the file, the variables and the flags put together. -/
theorem members_of_load {s : Settings} (loaded : load l t e explicit start flags = .ok s) :
    ∃ path config vars, e.settings l = .ok vars ∧
      ofMembers l.counting path (merged (Config.overrides config) vars (ofFlags flags)) = .ok s := by
  rw [load_eq_bind_sources] at loaded
  obtain ⟨p, found, checked⟩ := bind_eq_ok_iff.mp loaded
  exact ⟨p.1, p.2.1, p.2.2, settings_of_sources found,
    Checked.titled_eq_ok_iff.mp (mapError_eq_ok_iff.mp checked)⟩

lemma switches_of_members {counting : Decimal.Counting} {path : Option FilePath} {ms : Members}
    {s : Settings} {j v w : Bool} (checked : ofMembers counting path ms = .ok s)
    (json : ms.get? "json_output" = some (.bool j))
    (verbose : ms.get? "verbose" = some (.bool v)) (log : ms.get? "log_json" = some (.bool w)) :
    s.json = j ∧ s.verbose = v ∧ s.logJson = w := by
  have switch {key : String} {b c : Bool} (given : ms.get? key = some (.bool b))
      (read : Schema.withDefault ms key false Schema.bool = .ok c) : c = b := by
    have flag : Schema.withDefault ms key false Schema.bool = .ok b :=
      Schema.withDefault_of_get? given rfl
    exact Except.ok.inj (read.symm.trans flag)
  obtain ⟨p, given, rfl⟩ := map_eq_ok_iff.mp checked
  simp only [Checked.both_eq_ok] at given
  obtain ⟨first, second, third, -⟩ := given
  exact ⟨switch json first, switch verbose second, switch log third⟩

end Settings

namespace Cli

namespace Globals

lemma names_flags (g : Globals) : g.flags.map Prod.fst = ["json_output", "verbose", "log_json"] :=
  rfl

lemma nodup_flags (g : Globals) : (g.flags.map Prod.fst).Nodup := by
  rw [names_flags]
  decide

lemma mem_keys_of_flags (g : Globals) : ∀ m ∈ g.flags, m.1 ∈ Settings.keys := by
  intro m hm
  have name : m.1 ∈ ["json_output", "verbose", "log_json"] :=
    g.names_flags ▸ List.mem_map_of_mem hm
  exact (by decide : ["json_output", "verbose", "log_json"] ⊆ Settings.keys) name

lemma ofFlags_flags (g : Globals) : Settings.ofFlags g.flags = g.flags :=
  Settings.ofFlags_of_known g.mem_keys_of_flags g.nodup_flags

end Globals

/-- The settings are what the switches say. -/
theorem switches_of_settings {i : Invocation} {g : Globals} {s : Settings}
    (loaded : settings i g = .ok s) :
    s.json = g.json ∧ s.verbose = g.verbose ∧ s.logJson = g.logJson := by
  obtain ⟨path, config, vars, read, checked⟩ := Settings.members_of_load loaded
  rw [g.ofFlags_flags] at checked
  have distinct := Environment.nodup_settings read
  have own := g.nodup_flags
  exact Settings.switches_of_members checked (Settings.get?_merged_of_flag distinct own rfl)
    (Settings.get?_merged_of_flag distinct own rfl) (Settings.get?_merged_of_flag distinct own rfl)

end Cli
end GridRobot
