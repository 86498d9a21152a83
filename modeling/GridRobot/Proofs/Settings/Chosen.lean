import GridRobot.Proofs.Config.Discovery
import GridRobot.Proofs.Settings.Flags

/-! Which configuration file settings are made with: the one that is asked for if it is there, else the
nearest one, and where a path is too long none is found out. -/
namespace GridRobot

/-- A path with one more name. -/
def FilePath.child (p : FilePath) (n : String) : FilePath := ⟨p.rootSlashes, p.names ++ [n]⟩

namespace Config

/-- The path that is asked for, on the command line or else by the variable. -/
def asked? (e : Environment) (explicit : Option String) : Option String :=
  (explicit.filter (· ≠ "")).or ((e.get? variableName).filter (· ≠ ""))

/-- Where the walk starts, which is the working directory if nothing is given. -/
def directory (t : FileTree) : Option FilePath → List String
  | none => t.workingDirectory
  | some p => t.resolve p

/-- The file that settings are to be made with: what is asked for if it is a file, with nothing in its
place if it is not, and the nearest one if nothing is asked for. -/
inductive Chooses (t : FileTree) (e : Environment) (explicit : Option String)
    (start : Option FilePath) : Option FilePath → Prop
  | asked {s : String} (given : asked? e explicit = some s) (file : t.IsFile (.ofText s)) :
      Chooses t e explicit start (some (.ofText s))
  | askedInVain {s : String} (given : asked? e explicit = some s)
      (missing : ¬ t.IsFile (.ofText s)) : Chooses t e explicit start none
  | walked {r : Option FilePath} (free : asked? e explicit = none)
      (nearest : Nearest t (directory t start) r) : Chooses t e explicit start r

/-- A path for which the choice cannot be made, and why. -/
inductive Stops (t : FileTree) (e : Environment) (explicit : Option String)
    (start : Option FilePath) : FileError → Prop
  | asked {s : String} (given : asked? e explicit = some s) (long : t.TooLong (.ofText s)) :
      Stops t e explicit start ⟨(FilePath.ofText s).text, .tooLong⟩
  | start {p : FilePath} (free : asked? e explicit = none) (begins : start = some p)
      (null : FileTree.hasNull p.text = true) : Stops t e explicit start ⟨p.text, .nullCharacter⟩
  | walked {err : FileError} (free : asked? e explicit = none)
      (whole : ∀ p ∈ start, FileTree.hasNull p.text = false)
      (blocked : Blocked t (directory t start) err) : Stops t e explicit start err

variable {t : FileTree} {e : Environment} {explicit : Option String} {start : Option FilePath}
  {r r' : Option FilePath} {p : FilePath} {n : String}

lemma select_eq (t : FileTree) (e : Environment) (explicit : Option String)
    (start : Option FilePath) : select t e explicit start =
      match asked? e explicit with
      | some s => ifFile t (.ofText s)
      | none => search t start := by
  have unasked : find t e start =
      match (e.get? variableName).filter (· ≠ "") with
      | some s => ifFile t (.ofText s)
      | none => search t start := by
    unfold find
    cases e.get? variableName with
    | none => rfl
    | some s => by_cases empty : s = "" <;> simp [Option.filter_some, empty]
  unfold select asked?
  rw [unasked]
  cases explicit with
  | none => simp
  | some s => by_cases empty : s = "" <;> simp [Option.filter_some, empty]

theorem Chooses.exists (t : FileTree) (e : Environment) (explicit : Option String)
    (start : Option FilePath) : ∃ r, Chooses t e explicit start r := by
  cases given : asked? e explicit with
  | none =>
    obtain ⟨r, nearest⟩ := Nearest.exists t (directory t start)
    exact ⟨r, .walked given nearest⟩
  | some s =>
    by_cases file : t.IsFile (.ofText s)
    · exact ⟨_, .asked given file⟩
    · exact ⟨_, .askedInVain given file⟩

theorem Chooses.unique (h : Chooses t e explicit start r) (h' : Chooses t e explicit start r') :
    r = r' := by
  cases h with
  | asked given file => cases h' <;> simp_all
  | askedInVain given missing => cases h' <;> simp_all
  | walked free nearest =>
    cases h' with
    | asked given => simp_all
    | askedInVain given => simp_all
    | walked _ nearest' => exact nearest.unique nearest'

lemma search_eq (whole : ∀ p ∈ start, FileTree.hasNull p.text = false) :
    search t start = nearest t (directory t start) := by
  cases start with
  | none => rfl
  | some p =>
    rw [search, if_neg (by simp [whole p rfl])]
    rfl

section Stops

variable {s : String} {err : FileError}

lemma stops_asked_iff (given : asked? e explicit = some s) : Stops t e explicit start err ↔
    t.TooLong (.ofText s) ∧ err = ⟨(FilePath.ofText s).text, .tooLong⟩ := by
  constructor
  · intro h
    cases h with
    | asked same long =>
      obtain rfl := Option.some.inj (same.symm.trans given)
      exact ⟨long, rfl⟩
    | start free => simp [given] at free
    | walked free => simp [given] at free
  · rintro ⟨long, rfl⟩
    exact .asked given long

lemma stops_start_iff (free : asked? e explicit = none) (null : FileTree.hasNull p.text = true) :
    Stops t e explicit (some p) err ↔ err = ⟨p.text, .nullCharacter⟩ := by
  constructor
  · intro h
    cases h with
    | asked given => simp [free] at given
    | start _ begins => rw [Option.some.inj begins]
    | walked _ whole => simp [whole p rfl] at null
  · rintro rfl
    exact .start free rfl null

lemma stops_walked_iff (free : asked? e explicit = none)
    (whole : ∀ p ∈ start, FileTree.hasNull p.text = false) :
    Stops t e explicit start err ↔ Blocked t (directory t start) err := by
  refine ⟨fun h => ?_, .walked free whole⟩
  cases h with
  | asked given => simp [free] at given
  | start _ begins null => simp [whole _ begins] at null
  | walked _ _ blocked => exact blocked

end Stops

section

variable (sound : t.Sound) (normal : ∀ p ∈ start, p.Normal)

include sound normal

lemma dotless_directory : FileTree.Dotless (directory t start) := by
  cases start with
  | none => exact sound.dotless (by rw [directory, sound.working]; rfl)
  | some p => exact FileTree.Dotless.resolve sound (normal p rfl)

/-- The right file is selected, or the one path for which that cannot be said is reported. -/
theorem select_cases (e : Environment) (explicit : Option String) :
    (∃ r, select t e explicit start = .ok r ∧ Chooses t e explicit start r ∧
      ∀ err, ¬ Stops t e explicit start err) ∨
    ∃ err, select t e explicit start = .error err ∧
      ∀ err', Stops t e explicit start err' ↔ err' = err := by
  rw [select_eq]
  cases given : asked? e explicit with
  | some s =>
    simp only [ifFile, stops_asked_iff given]
    by_cases long : t.TooLong (.ofText s)
    · rw [FileTree.hasFile_eq_error_iff.mpr ⟨long, rfl⟩]
      exact .inr ⟨_, rfl, fun err => and_iff_right long⟩
    · rw [FileTree.hasFile_of_not_tooLong long]
      refine .inl ⟨_, rfl, ?_, fun err h => long h.1⟩
      by_cases file : t.IsFile (.ofText s)
      · simpa [file] using Chooses.asked given file
      · simpa [file] using Chooses.askedInVain given file
  | none =>
    by_cases whole : ∀ p ∈ start, FileTree.hasNull p.text = false
    · simp only [search_eq whole, stops_walked_iff given whole]
      obtain ⟨r, ends, near, free⟩ | stopped := nearest_cases sound (dotless_directory sound normal)
      · exact .inl ⟨r, ends, .walked given near, free⟩
      · exact .inr stopped
    · obtain ⟨p, begins, null⟩ : ∃ p ∈ start, FileTree.hasNull p.text = true := by
        simpa using whole
      obtain rfl : start = some p := begins
      exact .inr ⟨_, by simp [search, null], fun err => stops_start_iff given null⟩

end

lemma resolve_child (t : FileTree) (p : FilePath) (up : n ≠ "..") :
    t.resolve (p.child n) = t.resolve p ++ [n] :=
  List.foldl_append.trans (if_neg up)

/-- A directory's own file is found, and else what is found from the directory above it. -/
theorem find_child (sound : t.Sound) (free : asked? e none = none) (normal : p.Normal)
    (named : FileTree.IsName n) (whole : ∀ m ∈ p.names, Char.ofNat 0 ∉ m.toList)
    (short : ¬ t.TooLong (fileIn (t.resolve (p.child n)))) :
    (HasConfig t (t.resolve (p.child n)) →
      find t e (some (p.child n)) = .ok (some (fileIn (t.resolve (p.child n))))) ∧
    (¬ HasConfig t (t.resolve (p.child n)) →
      find t e (some (p.child n)) = find t e (some p)) := by
  obtain ⟨plain, -, noNull, -⟩ := named
  simp only [List.mem_cons, List.not_mem_nil, or_false, not_or] at plain
  have walk (q : FilePath) (whole : ∀ m ∈ q.names, Char.ofNat 0 ∉ m.toList) :
      find t e (some q) = nearest t (t.resolve q) := by
    have clean : FileTree.hasNull q.text = false := by
      rw [Bool.eq_false_iff]
      intro null
      obtain ⟨m, hm, inside⟩ := FilePath.exists_of_hasNull null
      exact whole m hm inside
    have same := select_eq t e none (some q)
    rw [free] at same
    exact same.trans (search_eq fun p' hp' => Option.some.inj hp' ▸ clean)
  have lower : ∀ m ∈ (p.child n).names, Char.ofNat 0 ∉ m.toList := by
    intro m hm
    rcases List.mem_append.mp hm with before | last
    · exact whole m before
    · exact List.mem_singleton.mp last ▸ noNull
  have dotless : FileTree.Dotless (t.resolve p ++ [n]) := by
    intro m hm
    rcases List.mem_append.mp hm with before | last
    · exact FileTree.Dotless.resolve sound normal m before
    · exact List.mem_singleton.mp last ▸ ⟨plain.2.1, plain.2.2⟩
  rw [walk _ lower, walk p whole]
  rw [resolve_child t p plain.2.2] at short ⊢
  rw [nearest_concat]
  obtain ⟨long, -⟩ | ⟨-, has, seen⟩ | ⟨-, without, seen⟩ := hasFile_fileIn sound dotless
  · exact absurd long short
  · rw [seen]
    exact ⟨fun _ => rfl, fun without => absurd has without⟩
  · rw [seen]
    exact ⟨fun has => absurd has without, fun _ => rfl⟩

end Config

namespace Settings

variable {l : Limits} {t : FileTree} {e : Environment} {explicit : Option String}
  {start : Option FilePath} {flags : Members} {s : Settings}

/-- Settings keep the path that was selected. -/
lemma select_of_load (loaded : load l t e explicit start flags = .ok s) :
    Config.select t e explicit start = .ok s.configPath := by
  rw [load_eq_bind_sources] at loaded
  obtain ⟨p, found, checked⟩ := bind_eq_ok_iff.mp loaded
  obtain ⟨parts, -, rfl⟩ :=
    map_eq_ok_iff.mp (Checked.titled_eq_ok_iff.mp (mapError_eq_ok_iff.mp checked))
  obtain ⟨path, selected, found⟩ := bind_eq_ok_iff.mp found
  obtain ⟨config, -, found⟩ := bind_eq_ok_iff.mp found
  obtain ⟨vars, -, same⟩ := bind_eq_ok_iff.mp found
  cases same
  exact mapError_eq_ok_iff.mp selected

lemma load_of_stopped {err : FileError} (stopped : Config.select t e explicit start = .error err)
    (flags : Members) : load l t e explicit start flags = .error (.search err) := by
  rw [load, stopped]
  rfl

/-- There is one right file, and settings are made with it and with no other. It is not found out only
where the path to look at is too long or has a null character in it; then there are no settings. A walk
from a directory finds the directory's own file, or else what the walk from the directory above
finds. All this is about trees in which every directory can be searched: where permission is denied the
search ends in an error instead, and file trees have no permissions. -/
theorem nearest_config_chosen_unless_stopped (sound : t.Sound) (normal : ∀ p ∈ start, p.Normal) :
    (∃ r, (∀ r', Config.Chooses t e explicit start r' ↔ r' = r) ∧
      ((∀ err, ¬ Config.Stops t e explicit start err) →
        Config.select t e explicit start = .ok r) ∧
      ∀ l flags s, load l t e explicit start flags = .ok s → s.configPath = r) ∧
    (∀ err, Config.Stops t e explicit start err →
      ∀ l flags, load l t e explicit start flags = .error (.search err)) ∧
    ∀ (p : FilePath) (n : String), Config.asked? e none = none → p.Normal → FileTree.IsName n →
      (∀ m ∈ p.names, Char.ofNat 0 ∉ m.toList) →
      ¬ t.TooLong (Config.fileIn (t.resolve (p.child n))) →
      (Config.HasConfig t (t.resolve (p.child n)) →
        Config.find t e (some (p.child n)) =
          .ok (some (Config.fileIn (t.resolve (p.child n))))) ∧
      (¬ Config.HasConfig t (t.resolve (p.child n)) →
        Config.find t e (some (p.child n)) = Config.find t e (some p)) := by
  refine ⟨?_, fun err stops l flags => ?_, fun p n free ok named whole short =>
    Config.find_child sound free ok named whole short⟩
  · obtain ⟨r, right⟩ := Config.Chooses.exists t e explicit start
    refine ⟨r, fun r' => ⟨fun h => h.unique right, fun same => same ▸ right⟩, fun none => ?_,
      fun l flags s loaded => ?_⟩
    · obtain ⟨r', selected, right', -⟩ | ⟨err, -, stops⟩ :=
        Config.select_cases sound normal e explicit
      · rw [selected, right'.unique right]
      · exact absurd ((stops err).mpr rfl) (none err)
    · have selected := select_of_load loaded
      obtain ⟨r', selected', right', -⟩ | ⟨err, stopped, -⟩ :=
        Config.select_cases sound normal e explicit
      · rw [selected, Except.ok.injEq] at selected'
        exact selected'.trans (right'.unique right)
      · rw [stopped] at selected
        cases selected
  · obtain ⟨r, -, -, free⟩ | ⟨err', stopped, only⟩ := Config.select_cases sound normal e explicit
    · exact absurd stops (free err)
    · rw [(only err).mp stops]
      exact load_of_stopped stopped flags

/-- A directory that is named like a configuration, below one with a configuration. -/
def nestedSample : FileTree where
  entry?
    | [] => some .directory
    | ["home"] => some .directory
    | ["home", "toyrobot.toml"] => some (.file [])
    | ["home", "robots"] => some .directory
    | ["home", "robots", "toyrobot.toml"] => some .directory
    | _ => none
  workingDirectory := ["home", "robots"]

lemma sound_nestedSample : nestedSample.Sound := by
  let places := [[], ["home"], ["home", "toyrobot.toml"], ["home", "robots"],
    ["home", "robots", "toyrobot.toml"]]
  have listed : ∀ d, (nestedSample.entry? d).isSome → d ∈ places := by
    intro d there
    simp only [nestedSample] at there
    split at there
    all_goals simp [places] at there ⊢
  have inside : ∀ d ∈ places, d ≠ [] → nestedSample.entry? d.dropLast = some .directory := by
    decide
  have named : ∀ d ∈ places, ∀ n ∈ d, FileTree.IsName n := by
    decide +kernel
  exact ⟨rfl, fun d there => inside d (listed d there), fun d there => named d (listed d there), rfl⟩

theorem nearest_config_chosen_past_directory :
    let e : Environment := [("TOYROBOT_CONFIG", "")]
    let start : Option FilePath := some (.ofText "./arms/../wheels")
    nestedSample.Sound ∧ (∀ p ∈ start, p.Normal) ∧
      Config.Chooses nestedSample e (some "") start (some (Config.fileIn ["home"])) ∧
      Config.find nestedSample e start = Config.find nestedSample e (some (.ofText "./arms/..")) := by
  intro e start
  have normal : ∀ p ∈ start, p.Normal := fun p hp => Option.some.inj hp ▸ FilePath.normal_ofText _
  obtain ⟨⟨r, only, -, kept⟩, -, child⟩ :=
    @nearest_config_chosen_unless_stopped nestedSample e (some "") start sound_nestedSample normal
  have loaded : load .usual nestedSample e (some "") start [] =
      .ok ⟨some (Config.fileIn ["home"]), false, false, false, .standard, .standard⟩ := by
    decide +kernel
  have right : some (Config.fileIn ["home"]) = r := kept .usual [] _ loaded
  have up := child (.ofText "./arms/..") "wheels" (by decide +kernel) (FilePath.normal_ofText _)
    (by decide +kernel) (by decide +kernel)
    (mt FileTree.read_eq_tooLong_iff.mpr (by decide +kernel))
  have below : (FilePath.ofText "./arms/..").child "wheels" = .ofText "./arms/../wheels" := by
    decide +kernel
  refine ⟨sound_nestedSample, normal, (only _).mpr right, ?_⟩
  rw [below] at up
  refine up.2 fun ⟨bytes, file⟩ => ?_
  have place : nestedSample.resolve (.ofText "./arms/../wheels") = ["home", "robots", "wheels"] := by
    decide +kernel
  rw [place] at file
  cases file

/-- One letter many times. -/
def repeated (count : Nat) : String := String.ofList (List.replicate count 'a')

lemma not_mem_repeated {c : Char} (other : c ≠ 'a') (count : Nat) :
    c ∉ (repeated count).toList := by
  rw [repeated, String.toList_ofList]
  exact fun h => other (List.eq_of_mem_replicate h)

/-- More letters than a name can have. -/
def overlongName : String := repeated 256

lemma text_overlongName : FilePath.text ⟨0, [overlongName]⟩ = overlongName := by
  decide +kernel

lemma tooLong_overlongName : nestedSample.TooLong ⟨0, [overlongName]⟩ := by
  have whole : FileTree.hasNull overlongName = false :=
    Bool.eq_false_iff.mpr (mt List.contains_iff_mem.mp (not_mem_repeated (by decide) _))
  refine .inr ⟨?_, [], overlongName, [], ["home", "robots"], rfl, rfl, rfl, by decide +kernel⟩
  rw [text_overlongName, FileTree.refusal?, whole]
  decide +kernel

/-- There is no file by this name, but that is not found out. -/
theorem overlong_variable_stops :
    let e : Environment := [("TOYROBOT_CONFIG", overlongName)]
    nestedSample.Sound ∧ Config.Chooses nestedSample e none none none ∧
      ∀ l flags, load l nestedSample e none none flags = .error (.search ⟨overlongName, .tooLong⟩) := by
  intro e
  have given : Config.asked? e none = some overlongName := by decide +kernel
  have path : FilePath.ofText overlongName = ⟨0, [overlongName]⟩ :=
    FilePath.ofText_of_not_mem (not_mem_repeated (by decide) _) (by decide +kernel)
  have missing : ¬ nestedSample.IsFile (.ofText overlongName) := by
    rw [path]
    exact FileTree.not_isFile_of_tooLong tooLong_overlongName
  have stopped : Config.select nestedSample e none none = .error ⟨overlongName, .tooLong⟩ := by
    rw [Config.select_eq, given]
    change Config.ifFile nestedSample (.ofText overlongName) = _
    rw [path, Config.ifFile, FileTree.hasFile_eq_error_iff.mpr ⟨tooLong_overlongName, rfl⟩,
      text_overlongName]
    rfl
  exact ⟨sound_nestedSample, .askedInVain given missing, fun l => load_of_stopped stopped⟩

end Settings
end GridRobot
