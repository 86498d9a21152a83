import GridRobot.Files
import GridRobot.Proofs.Result
import GridRobot.Proofs.Text.Joined
import Mathlib.Data.List.Basic
import Mathlib.Data.List.Induction
import Mathlib.Tactic.ByContra
import Mathlib.Tactic.Lemma

/-! Paths looked up in a tree: a path from the root without dots leads to what the tree has there,
and a lookup fails for a length only where a text or a name is too long. -/
namespace GridRobot

/-- A null character of a path is one of its names'. -/
lemma FilePath.exists_of_hasNull {p : FilePath} (h : FileTree.hasNull p.text = true) :
    ∃ n ∈ p.names, Char.ofNat 0 ∈ n.toList := by
  have present : Char.ofNat 0 ∈ p.text.toList := List.contains_iff_mem.mp h
  have notDot : Char.ofNat 0 ∉ ".".toList := by decide
  have notSlash : Char.ofNat 0 ∉ "/".toList := by decide
  rw [FilePath.text] at present
  split at present
  · exact absurd present notDot
  · rw [String.toList_append, String.toList_ofList, String.toList_intercalate,
      List.mem_append] at present
    rcases present with slashes | body
    · rw [(List.mem_replicate.mp slashes).2] at notSlash
      exact absurd List.mem_cons_self notSlash
    · obtain between | ⟨part, hpart, inside⟩ := exists_mem_of_mem_intercalate body
      · exact absurd between notSlash
      · obtain ⟨n, hn, rfl⟩ := List.mem_map.mp hpart
        exact ⟨n, hn, inside⟩

namespace FileTree

/-- What can be the name of something in a directory. -/
def IsName (n : String) : Prop :=
  n ∉ ["", ".", ".."] ∧ '/' ∉ n.toList ∧ Char.ofNat 0 ∉ n.toList ∧ n.utf8ByteSize ≤ nameLimit

instance (n : String) : Decidable (IsName n) := by
  unfold IsName
  infer_instance

/-- Everything but the root is in a directory by a name, and the working directory is there. -/
structure Sound (t : FileTree) : Prop where
  root : t.entry? [] = some .directory
  inside : ∀ d, (t.entry? d).isSome → d ≠ [] → t.entry? d.dropLast = some .directory
  named : ∀ d, (t.entry? d).isSome → ∀ n ∈ d, IsName n
  working : t.entry? t.workingDirectory = some .directory

/-- Names that are not taken for the same or the upper directory. -/
def Dotless (d : List String) : Prop := ∀ n ∈ d, n ≠ "." ∧ n ≠ ".."

/-- Too many bytes in all, or too many in a name that is looked for in a directory. -/
def TooLong (t : FileTree) (p : FilePath) : Prop :=
  refusal? p.text = some .tooLong ∨
  refusal? p.text = none ∧ ∃ before name after place, p.names = before ++ name :: after ∧
    t.locate ⟨p.rootSlashes, before⟩ = .ok place ∧ t.entry? place = some .directory ∧
    nameLimit < name.utf8ByteSize

variable {t : FileTree} {p : FilePath} {d place : List String} {name : String} {bytes : List UInt8}

lemma Sound.dotless (sound : t.Sound) (there : (t.entry? d).isSome) : Dotless d := by
  intro n hn
  have named := (sound.named d there n hn).1
  simp only [List.mem_cons, List.not_mem_nil, or_false, not_or] at named
  exact ⟨named.2.1, named.2.2⟩

lemma enter_eq_ok {next : List String} (entered : t.enter place name = .ok next)
    (dotless : name ≠ "." ∧ name ≠ "..") : next = place ++ [name] := by
  unfold enter at entered
  rw [if_neg dotless.1, if_neg dotless.2] at entered
  split at entered
  · cases entered
  · cases entered
  · split at entered
    · cases entered
    · split at entered
      · exact (Except.ok.inj entered).symm
      · cases entered

lemma enter_eq_tooLong_iff : t.enter place name = .error .tooLong ↔
    t.entry? place = some .directory ∧ nameLimit < name.utf8ByteSize := by
  have dot : ¬ nameLimit < ".".utf8ByteSize := by decide
  have dots : ¬ nameLimit < "..".utf8ByteSize := by decide
  unfold enter
  split
  · simp [*]
  · simp [*]
  · split
    · rename_i same
      simp [*]
    · split
      · rename_i same
        simp [*]
      · split
        · simp [*]
        · split
          · simp [*]
          · simp [*]

lemma enter_of_entry (parent : t.entry? place = some .directory) (named : IsName name)
    (there : (t.entry? (place ++ [name])).isSome) : t.enter place name = .ok (place ++ [name]) := by
  obtain ⟨plain, -, -, short⟩ := named
  simp only [List.mem_cons, List.not_mem_nil, or_false, not_or] at plain
  rw [enter, parent]
  simp only [if_neg plain.2.1, if_neg plain.2.2, if_neg (Nat.not_lt.mpr short), if_pos there]

/-- What is in a tree is found there. -/
lemma Sound.foldlM_enter (sound : t.Sound) (there : (t.entry? d).isSome) :
    d.foldlM t.enter [] = .ok d := by
  induction d using List.reverseRecOn with
  | nil => rfl
  | append_singleton d n ih =>
    have parent : t.entry? d = some .directory := by
      have := sound.inside (d ++ [n]) there (by simp)
      rwa [List.dropLast_concat] at this
    have named := sound.named (d ++ [n]) there n (by simp)
    rw [List.foldlM_append, ih (by rw [parent]; rfl)]
    change (t.enter d n >>= pure) = _
    rw [enter_of_entry parent named there]
    rfl

/-- Nowhere else is anything found by names without dots. -/
lemma eq_of_foldlM_enter {start : List String} (dotless : Dotless d)
    (found : d.foldlM t.enter start = .ok place) : place = start ++ d := by
  induction d generalizing start with
  | nil =>
    obtain rfl : start = place := Except.ok.inj found
    simp
  | cons n d ih =>
    rw [List.foldlM_cons, bind_eq_ok_iff] at found
    obtain ⟨next, entered, later⟩ := found
    obtain rfl := enter_eq_ok entered (dotless n List.mem_cons_self)
    rw [ih (fun m hm => dotless m (List.mem_cons_of_mem _ hm)) later, List.append_assoc]
    rfl

lemma read_eq_ok_iff : t.read p = .ok bytes ↔ refusal? p.text = none ∧
    ∃ place, t.locate p = .ok place ∧ t.entry? place = some (.file bytes) := by
  unfold read contents
  cases refusal? p.text with
  | some e => simp
  | none =>
    simp only [bind_eq_ok_iff, true_and]
    refine exists_congr fun place => and_congr_right fun _ => ?_
    cases t.entry? place with
    | none => simp
    | some entry => cases entry <;> simp [pure, Except.pure]

/-- A lookup fails for a length exactly where a length is too great. -/
theorem read_eq_tooLong_iff : t.read p = .error .tooLong ↔ t.TooLong p := by
  unfold read contents TooLong
  cases refusal? p.text with
  | some e => simp
  | none =>
    simp only [reduceCtorEq, false_or, true_and, bind_eq_error_iff]
    constructor
    · rintro (far | ⟨place, -, refused⟩)
      · obtain ⟨before, name, after, place, split, way, long⟩ := foldlM_eq_error_iff.mp far
        exact ⟨before, name, after, place, split, way, enter_eq_tooLong_iff.mp long⟩
      · split at refused <;> cases refused
    · rintro ⟨before, name, after, place, split, way, long⟩
      exact .inl <| foldlM_eq_error_iff.mpr
        ⟨before, name, after, place, split, way, enter_eq_tooLong_iff.mpr long⟩

lemma hasFile_eq_error_iff {e : FileError} :
    t.hasFile p = .error e ↔ t.TooLong p ∧ e = ⟨p.text, .tooLong⟩ := by
  rw [← read_eq_tooLong_iff]
  unfold hasFile
  split
  · rename_i long
    simp [long, eq_comm]
  · rename_i short
    simp [mt short]

lemma hasFile_of_not_tooLong (short : ¬ t.TooLong p) : t.hasFile p = .ok (decide (t.IsFile p)) := by
  rw [← read_eq_tooLong_iff] at short
  unfold hasFile IsFile
  split
  · rename_i long
    exact absurd long short
  · exact congrArg _ (Bool.decide_coe _).symm

lemma not_isFile_of_tooLong (long : t.TooLong p) : ¬ t.IsFile p := by
  rw [IsFile, read_eq_tooLong_iff.mpr long]
  exact nofun

lemma isFile_iff : t.IsFile p ↔ ∃ bytes, t.read p = .ok bytes := by
  unfold IsFile
  cases t.read p with
  | error e => simp [Except.isOk, Except.toBool]
  | ok bytes => simp [Except.isOk, Except.toBool]

/-- A path from the root is a file's exactly if the tree has a file by these names. -/
theorem Sound.isFile_absolute_iff (sound : t.Sound) (dotless : Dotless d)
    (short : ¬ t.TooLong (.absolute d)) :
    t.IsFile (.absolute d) ↔ ∃ bytes, t.entry? d = some (.file bytes) := by
  rw [isFile_iff]
  refine exists_congr fun bytes => ?_
  rw [read_eq_ok_iff]
  constructor
  · rintro ⟨-, place, found, file⟩
    obtain rfl : place = d := eq_of_foldlM_enter dotless found
    exact file
  · intro file
    have there : (t.entry? d).isSome := by rw [file]; rfl
    refine ⟨?_, d, sound.foldlM_enter there, file⟩
    -- The names are of things that exist, so the text can only be too long.
    have noNull : hasNull (FilePath.absolute d).text = false := by
      rw [Bool.eq_false_iff]
      intro null
      obtain ⟨n, hn, inside⟩ := FilePath.exists_of_hasNull null
      exact (sound.named d there n hn).2.2.1 inside
    have nonempty : (FilePath.absolute d).text ≠ "" := by
      intro empty
      have := congrArg String.toList empty
      simp [FilePath.text, FilePath.absolute] at this
    have fits : ¬ pathLimit < (FilePath.absolute d).text.utf8ByteSize := fun long =>
      short (.inl (by rw [refusal?, noNull]; simp [nonempty, long]))
    rw [refusal?, noNull]
    simp [nonempty, fits]

end FileTree
end GridRobot
