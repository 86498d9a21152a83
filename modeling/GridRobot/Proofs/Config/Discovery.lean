import GridRobot.Config.Discovery
import GridRobot.Proofs.Files
import Mathlib.Data.List.Basic
import Mathlib.Tactic.Lemma

/-! The file that is found by walking up from a directory, and where the walk stops before it is
found. -/
namespace GridRobot

/-- No name of a path is empty or a dot that stands alone. -/
def FilePath.Normal (p : FilePath) : Prop := ∀ n ∈ p.names, n ≠ "" ∧ n ≠ "."

namespace FilePath

theorem normal_ofText (s : String) : (ofText s).Normal := by
  intro n hn
  simpa using (List.mem_filter.mp hn).2

lemma segments_of_not_mem {cs : List Char} (h : '/' ∉ cs) : segments cs = [cs] := by
  induction cs with
  | nil => rfl
  | cons c r ih =>
    simp only [List.mem_cons, not_or] at h
    have other : (c == '/') = false := beq_eq_false_iff_ne.mpr (Ne.symm h.1)
    simp only [segments, ih h.2, other]

/-- Without slashes a text is one name, from the working directory. -/
lemma ofText_of_not_mem {s : String} (h : '/' ∉ s.toList) (named : s ≠ "" ∧ s ≠ ".") :
    ofText s = ⟨0, [s]⟩ := by
  have relative : leadingSlashes s.toList = 0 := by
    unfold leadingSlashes
    split <;> simp_all
  simp [ofText, segments_of_not_mem h, relative, named]

end FilePath

namespace FileTree

variable {t : FileTree} {p : FilePath} {d : List String}

/-- Two dots are resolved, so no dots are left. -/
lemma Dotless.resolve (sound : t.Sound) (normal : p.Normal) : Dotless (t.resolve p) := by
  have start : Dotless (if p.rootSlashes = 0 then t.workingDirectory else []) := by
    split
    · exact sound.dotless (by rw [sound.working]; rfl)
    · exact fun n hn => absurd hn List.not_mem_nil
  rw [FileTree.resolve]
  rw [FilePath.Normal] at normal
  generalize (if p.rootSlashes = 0 then t.workingDirectory else []) = place at start
  generalize p.names = names at normal
  induction names generalizing place with
  | nil => exact start
  | cons name names ih =>
    refine ih _ ?_ fun n hn => normal n (List.mem_cons_of_mem _ hn)
    dsimp only
    split
    · exact fun n hn => start n ((List.dropLast_subset _ hn))
    · rename_i up
      intro n hn
      rcases List.mem_append.mp hn with before | last
      · exact start n before
      · obtain rfl := List.mem_singleton.mp last
        exact ⟨(normal n List.mem_cons_self).2, up⟩

end FileTree

namespace Config

/-- A directory has a regular file with the name of a configuration. -/
def HasConfig (t : FileTree) (d : List String) : Prop :=
  ∃ bytes, t.entry? (d ++ [fileName]) = some (.file bytes)

/-- The configuration of the deepest directory that has one, among a directory and all above it. -/
inductive Nearest (t : FileTree) (directory : List String) : Option FilePath → Prop
  | found {d : List String} (above : d <+: directory) (has : HasConfig t d)
      (deepest : ∀ d', d' <+: directory → HasConfig t d' → d'.length ≤ d.length) :
      Nearest t directory (some (fileIn d))
  | nothing (without : ∀ d, d <+: directory → ¬ HasConfig t d) : Nearest t directory none

/-- The path of a candidate is too long, and no deeper directory has a configuration. -/
inductive Blocked (t : FileTree) (directory : List String) : FileError → Prop
  | tooLong {d : List String} (above : d <+: directory) (long : t.TooLong (fileIn d))
      (deeper : ∀ d', d' <+: directory → d.length < d'.length →
        ¬ t.TooLong (fileIn d') ∧ ¬ HasConfig t d') :
      Blocked t directory ⟨(fileIn d).text, .tooLong⟩

variable {t : FileTree} {d directory : List String} {n : String} {r r' : Option FilePath}
  {e : FileError}

lemma ancestors_concat (d : List String) (n : String) :
    ancestors (d ++ [n]) = (d ++ [n]) :: ancestors d := by
  induction d with
  | nil => rfl
  | cons m d ih =>
    change (ancestors (d ++ [n])).map (m :: ·) ++ [[]] = _
    rw [ih]
    rfl

/-- A directory's own file comes before those above. -/
lemma nearest_concat (t : FileTree) (d : List String) (n : String) :
    nearest t (d ++ [n]) = t.hasFile (fileIn (d ++ [n])) >>= fun has =>
      if has then .ok (some (fileIn (d ++ [n]))) else nearest t d := by
  rw [nearest, ancestors_concat, List.map_cons, List.findM?]
  refine congrArg _ (funext fun has => ?_)
  cases has <;> rfl

lemma nearest_root (t : FileTree) :
    nearest t [] = t.hasFile (fileIn []) >>= fun has =>
      if has then .ok (some (fileIn [])) else .ok none := by
  rw [nearest, ancestors, List.map_cons, List.findM?]
  refine congrArg _ (funext fun has => ?_)
  cases has <;> rfl

lemma Nearest.of_has (has : HasConfig t directory) :
    Nearest t directory (some (fileIn directory)) :=
  .found (List.prefix_refl _) has fun _ above _ => above.length_le

/-- A directory without a configuration has that of the directory above it. -/
lemma Nearest.of_parent (without : ¬ HasConfig t (d ++ [n])) (h : Nearest t d r) :
    Nearest t (d ++ [n]) r := by
  cases h with
  | found above has deepest =>
    refine .found (above.trans (List.prefix_append _ _)) has fun d' above' has' => ?_
    obtain rfl | inner := List.prefix_concat_iff.mp above'
    · exact absurd has' without
    · exact deepest d' inner has'
  | nothing none =>
    refine .nothing fun d' above' has' => ?_
    obtain rfl | inner := List.prefix_concat_iff.mp above'
    · exact without has'
    · exact none d' inner has'

theorem Nearest.exists (t : FileTree) (directory : List String) : ∃ r, Nearest t directory r := by
  induction directory using List.reverseRecOn with
  | nil =>
    by_cases has : HasConfig t []
    · exact ⟨_, .of_has has⟩
    · exact ⟨_, .nothing fun d above => List.prefix_nil.mp above ▸ has⟩
  | append_singleton d n ih =>
    by_cases has : HasConfig t (d ++ [n])
    · exact ⟨_, .of_has has⟩
    · obtain ⟨r, above⟩ := ih
      exact ⟨r, above.of_parent has⟩

theorem Nearest.unique (h : Nearest t directory r) (h' : Nearest t directory r') : r = r' := by
  cases h with
  | found above has deepest =>
    cases h' with
    | found above' has' deepest' =>
      have same := Nat.le_antisymm (deepest' _ above has) (deepest _ above' has')
      rw [(List.prefix_of_prefix_length_le above above' (Nat.le_of_eq same)).eq_of_length
        same]
    | nothing without => exact absurd has (without _ above)
  | nothing without =>
    cases h' with
    | found above' has' => exact absurd has' (without _ above')
    | nothing => rfl

lemma Blocked.of_tooLong (long : t.TooLong (fileIn directory)) :
    Blocked t directory ⟨(fileIn directory).text, .tooLong⟩ :=
  .tooLong (List.prefix_refl _) long fun _ above deeper =>
    absurd above.length_le (Nat.not_le.mpr deeper)

lemma Blocked.of_parent (short : ¬ t.TooLong (fileIn (d ++ [n])))
    (without : ¬ HasConfig t (d ++ [n])) (h : Blocked t d e) : Blocked t (d ++ [n]) e := by
  cases h with
  | tooLong above long deeper =>
    refine .tooLong (above.trans (List.prefix_append _ _)) long fun d' above' below => ?_
    obtain rfl | inner := List.prefix_concat_iff.mp above'
    · exact ⟨short, without⟩
    · exact deeper d' inner below

/-- A walk is stopped at the directory itself, or further up if the directory has nothing. -/
lemma Blocked.cases_concat (h : Blocked t (d ++ [n]) e) :
    t.TooLong (fileIn (d ++ [n])) ∧ e = ⟨(fileIn (d ++ [n])).text, .tooLong⟩ ∨
      ¬ t.TooLong (fileIn (d ++ [n])) ∧ ¬ HasConfig t (d ++ [n]) ∧ Blocked t d e := by
  cases h with
  | tooLong above long deeper =>
    obtain rfl | inner := List.prefix_concat_iff.mp above
    · exact .inl ⟨long, rfl⟩
    · have below := Nat.lt_of_le_of_lt inner.length_le
        (by simp : d.length < (d ++ [n]).length)
      obtain ⟨short, without⟩ := deeper _ (List.prefix_refl _) below
      exact .inr ⟨short, without, .tooLong inner long fun d' above' =>
        deeper d' (above'.trans (List.prefix_append _ _))⟩

section

variable (sound : t.Sound)

include sound

lemma isFile_fileIn_iff (dotless : FileTree.Dotless d) (short : ¬ t.TooLong (fileIn d)) :
    t.IsFile (fileIn d) ↔ HasConfig t d := by
  refine sound.isFile_absolute_iff (fun n hn => ?_) short
  rcases List.mem_append.mp hn with before | last
  · exact dotless n before
  · obtain rfl := List.mem_singleton.mp last
    decide

/-- What one step of the walk sees. -/
lemma hasFile_fileIn (dotless : FileTree.Dotless d) :
    t.TooLong (fileIn d) ∧ t.hasFile (fileIn d) = .error ⟨(fileIn d).text, .tooLong⟩ ∨
    ¬ t.TooLong (fileIn d) ∧ HasConfig t d ∧ t.hasFile (fileIn d) = .ok true ∨
    ¬ t.TooLong (fileIn d) ∧ ¬ HasConfig t d ∧ t.hasFile (fileIn d) = .ok false := by
  by_cases long : t.TooLong (fileIn d)
  · exact .inl ⟨long, FileTree.hasFile_eq_error_iff.mpr ⟨long, rfl⟩⟩
  · have seen := FileTree.hasFile_of_not_tooLong long
    have regular := isFile_fileIn_iff sound dotless long
    by_cases has : HasConfig t d
    · exact .inr (.inl ⟨long, has, by rw [seen, decide_eq_true (regular.mpr has)]⟩)
    · exact .inr (.inr ⟨long, has, by rw [seen, decide_eq_false (mt regular.mp has)]⟩)

/-- A walk ends with the nearest configuration, or where it is stopped. -/
theorem nearest_cases (dotless : FileTree.Dotless directory) :
    (∃ r, nearest t directory = .ok r ∧ Nearest t directory r ∧ ∀ e, ¬ Blocked t directory e) ∨
    ∃ e, nearest t directory = .error e ∧ ∀ e', Blocked t directory e' ↔ e' = e := by
  induction directory using List.reverseRecOn with
  | nil =>
    have alone {e : FileError} (h : Blocked t [] e) :
        t.TooLong (fileIn []) ∧ e = ⟨(fileIn []).text, .tooLong⟩ := by
      cases h with
      | tooLong above long =>
        obtain rfl := List.prefix_nil.mp above
        exact ⟨long, rfl⟩
    rw [nearest_root]
    obtain ⟨long, seen⟩ | ⟨short, has, seen⟩ | ⟨short, without, seen⟩ := hasFile_fileIn sound dotless
    · rw [seen]
      exact .inr ⟨_, rfl, fun e' => ⟨fun h => (alone h).2, fun same => same ▸ .of_tooLong long⟩⟩
    · rw [seen]
      exact .inl ⟨_, rfl, .of_has has, fun e h => short (alone h).1⟩
    · rw [seen]
      exact .inl ⟨_, rfl, .nothing fun d above => List.prefix_nil.mp above ▸ without,
        fun e h => short (alone h).1⟩
  | append_singleton d n ih =>
    -- The deepest directory is looked at first, so the list is taken apart from its end.
    have upper : FileTree.Dotless d := fun m hm => dotless m (List.mem_append_left _ hm)
    rw [nearest_concat]
    obtain ⟨long, seen⟩ | ⟨short, has, seen⟩ | ⟨short, without, seen⟩ := hasFile_fileIn sound dotless
    · rw [seen]
      refine .inr ⟨_, rfl, fun e' => ⟨fun h => ?_, fun same => same ▸ .of_tooLong long⟩⟩
      obtain ⟨-, same⟩ | ⟨short, -⟩ := h.cases_concat
      · exact same
      · exact absurd long short
    · rw [seen]
      refine .inl ⟨_, rfl, .of_has has, fun e h => ?_⟩
      obtain ⟨long, -⟩ | ⟨-, without, -⟩ := h.cases_concat
      · exact short long
      · exact without has
    · rw [seen]
      -- Nothing is here, so the walk goes on as it would from the directory above.
      have up {e : FileError} : Blocked t (d ++ [n]) e ↔ Blocked t d e := by
        refine ⟨fun h => ?_, .of_parent short without⟩
        obtain ⟨long, -⟩ | ⟨-, -, above⟩ := h.cases_concat
        · exact absurd long short
        · exact above
      obtain ⟨r, ends, near, free⟩ | ⟨e, stops, blocked⟩ := ih upper
      · exact .inl ⟨r, ends, near.of_parent without, fun e h => free e (up.mp h)⟩
      · exact .inr ⟨e, stops, fun e' => up.trans (blocked e')⟩

end

end Config
end GridRobot
