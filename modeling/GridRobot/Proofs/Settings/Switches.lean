import GridRobot.Proofs.Settings.Precedence

/-! The switches on a command line decide nothing but themselves: whether there are settings, and which
these are but for the switches, is the same whatever they say. -/
namespace GridRobot

lemma Schema.withDefault_congr {α : Type} {ms ns : Members} {key : String} {default : α}
    {check : Data → Checked α} (same : ms.get? key = ns.get? key) :
    withDefault ms key default check = withDefault ns key default check := by
  simp only [withDefault, optional, same]

namespace Settings
open Cli (Globals)

variable {l : Limits} {counting : Decimal.Counting} {e : Environment} {path : Option FilePath} {c : Config} {vars ms ns : Members}
  {key : String} {g h : Globals}

/-- The same settings but for the switches. -/
def switched (g : Globals) (s : Settings) : Settings :=
  { s with json := g.json, verbose := g.verbose, logJson := g.logJson }

/-- Members of settings that have the switches among them. -/
structure Switched (g : Globals) (ms : Members) : Prop where
  known : ∀ k ∈ ms.map Prod.fst, k ∈ keys
  json : ms.get? "json_output" = some (.bool g.json)
  verbose : ms.get? "verbose" = some (.bool g.verbose)
  logJson : ms.get? "log_json" = some (.bool g.logJson)

/-- Of members that have switches, nothing but the sections matters for the rest. -/
lemma Switched.ofMembers (hm : Switched g ms) (hn : Switched h ns)
    (board : ms.get? "board" = ns.get? "board") (map : ms.get? "map" = ns.get? "map") :
    Settings.ofMembers counting path ms =
      (Settings.ofMembers counting path ns).map (switched g) := by
  have switch {ms : Members} {key : String} {b : Bool} (given : ms.get? key = some (.bool b)) :
      Schema.withDefault ms key false Schema.bool = .ok b :=
    Schema.withDefault_of_get? given rfl
  rw [Settings.ofMembers, Settings.ofMembers]
  simp only [switch hm.json, switch hn.json, switch hm.verbose, switch hn.verbose,
    switch hm.logJson, switch hn.logJson, noOthers_of_known hm.known, noOthers_of_known hn.known,
    Schema.withDefault_congr board, Schema.withDefault_congr map]
  cases Schema.withDefault ns "board" ⟨none, none⟩ (PartialSize.ofData counting) <;>
    cases Schema.withDefault ns "map" ⟨none, none⟩ PartialGlyphs.ofData <;> rfl

lemma switched_merged (read : e.settings l = .ok vars) (c : Config) (g : Globals) :
    Switched g (merged c.overrides vars (ofFlags g.flags)) := by
  have named : Named g.flags := by
    intro m hm
    have known := g.mem_keys_of_flags m hm
    rwa [lower_of_mem known]
  have distinct := Environment.nodup_settings read
  refine ⟨names_merged named read, ?_, ?_, ?_⟩
  all_goals
    rw [g.ofFlags_flags]
    exact get?_merged_of_flag distinct g.nodup_flags rfl

/-- No switch is a section, so the sections are as the file and the variables have them. -/
lemma get?_merged_of_absent (read : e.settings l = .ok vars) (c : Config)
    (absent : g.flags.get? key = none) :
    (merged c.overrides vars (ofFlags g.flags)).get? key =
      Environment.atop (c.overrides.get? key) (vars.get? key) := by
  rw [g.ofFlags_flags, get?_merged (Environment.nodup_settings read) g.nodup_flags, absent]
  rfl

/-- Whatever the switches say, settings are found or not found alike, and are the same but for them. -/
theorem load_switched (l : Limits) (t : FileTree) (e : Environment) (explicit : Option String)
    (start : Option FilePath) (g h : Globals) :
    load l t e explicit start g.flags = (load l t e explicit start h.flags).map (switched g) := by
  cases found : sources l t e explicit start with
  | error f =>
    rw [load_eq_bind_sources, load_eq_bind_sources, found]
    rfl
  | ok p =>
    have read := settings_of_sources found
    have checked : Settings.ofMembers l.counting p.1 _ = _ := (switched_merged read p.2.1 g).ofMembers
      (switched_merged read p.2.1 h)
      ((get?_merged_of_absent read _ rfl).trans (get?_merged_of_absent read _ rfl).symm)
      ((get?_merged_of_absent read _ rfl).trans (get?_merged_of_absent read _ rfl).symm)
    rw [load_of_sources found, load_of_sources found, checked, Checked.titled_map,
      mapError_map]

end Settings

/-- Two command lines with the same configuration have the same settings but for the switches. -/
theorem Cli.settings_switched (i : Invocation) {g h : Globals} (config : g.config = h.config) :
    settings i g = (settings i h).map (Settings.switched g) := by
  rw [settings, settings, config]
  exact Settings.load_switched _ _ _ _ _ g h

end GridRobot
