import GridRobot.Proofs.Text.Line
import GridRobot.Proofs.Text.Utf8.Runs
import Mathlib.Data.List.Forall2

/-! What of a chunk of bytes is kept in its line, whatever the bytes are: all that is ASCII but for the
end of the line, in its place, and something for every run of other bytes. -/
namespace GridRobot.Line

/-- A stream in chunks, each of which goes on up to a newline or to the end of the stream. -/
inductive CutAfterNewlines : List UInt8 → List (List UInt8) → Prop
  | done : CutAfterNewlines [] []
  | last {body : List UInt8} (some : body ≠ []) (unbroken : newline ∉ body) :
      CutAfterNewlines body [body]
  | next {body r : List UInt8} {cs : List (List UInt8)} (unbroken : newline ∉ body)
      (rest : CutAfterNewlines r cs) :
      CutAfterNewlines (body ++ newline :: r) ((body ++ [newline]) :: cs)

/-- A line has the ASCII of some bytes in order, and for each run of others some characters that are not
ASCII, between what the bytes before the run and those after it are decoded to. -/
structure Mirrors (body : List UInt8) (line : String) : Prop where
  ascii : Utf8.ascii (line.toList.map Char.toNat) = Utf8.ascii (body.map UInt8.toNat)
  runs : ∀ before run after, body = before ++ run ++ after → Utf8.IsRun before run after →
    ∃ cs, line.toList = Utf8.decode before ++ cs ++ Utf8.decode after ∧ cs ≠ [] ∧
      ∀ c ∈ cs, 0x80 ≤ c.toNat

variable {body chunk bytes r : List UInt8} {cs : List (List UInt8)} {line : String}

theorem mirrors_decode (body : List UInt8) : Mirrors body (String.ofList (Utf8.decode body)) where
  ascii := by
    rw [String.toList_ofList]
    exact Utf8.ascii_decodeFrom .ready body
  runs before run after whole isRun := by
    obtain ⟨beyond, some⟩ := Utf8.beyond_decodeFrom .ready isRun.beyond
    refine ⟨Utf8.decode run, ?_, some (.inr isRun.nonempty), beyond⟩
    rw [String.toList_ofList, whole, Utf8.decode_run isRun]

/-- A newline in a line is one in the bytes. -/
lemma Mirrors.newline_mem (mirrors : Mirrors body line) (broken : '\n' ∈ line.toList) :
    newline ∈ body := by
  have inLine : 10 ∈ Utf8.ascii (line.toList.map Char.toNat) :=
    List.mem_filter.mpr ⟨List.mem_map.mpr ⟨'\n', broken, rfl⟩, rfl⟩
  rw [mirrors.ascii] at inLine
  obtain ⟨b, hb, same⟩ := List.mem_map.mp (List.mem_filter.mp inLine).1
  obtain rfl : b = newline := UInt8.toNat_inj.mp same
  exact hb

/-- If only the last byte of a chunk can be a newline, then there is none without the end. -/
lemma Cut.newline_not_mem (cut : Cut chunk body) (unbroken : Line.newline ∉ chunk.dropLast) :
    Line.newline ∉ body := by
  cases cut with
  | unended last =>
    intro broken
    have nonempty := List.ne_nil_of_mem broken
    rw [← List.dropLast_concat_getLast nonempty, List.mem_append, List.mem_singleton] at broken
    refine broken.elim unbroken fun same => last ?_
    rw [List.getLast?_eq_some_getLast nonempty, ← same]
  | newline last => rwa [List.dropLast_concat] at unbroken
  | returned =>
    rw [List.append_cons, List.dropLast_concat, List.mem_append, not_or] at unbroken
    exact unbroken.1

lemma CutAfterNewlines.newline_not_mem (cut : CutAfterNewlines bytes cs) (hc : chunk ∈ cs) :
    newline ∉ chunk.dropLast := by
  induction cut with
  | done => cases hc
  | last some unbroken =>
    rw [List.mem_singleton.mp hc]
    exact fun broken => unbroken (List.dropLast_subset _ broken)
  | next unbroken rest ih =>
    rcases List.mem_cons.mp hc with rfl | later
    · rwa [List.dropLast_concat]
    · exact ih later

/-- Another byte in front of a stream belongs to the first chunk. -/
lemma CutAfterNewlines.cons {b : UInt8} (cut : CutAfterNewlines r (chunk :: cs)) (other : b ≠ newline) :
    CutAfterNewlines (b :: r) ((b :: chunk) :: cs) := by
  cases cut with
  | last some unbroken =>
    exact .last (List.cons_ne_nil b _) (List.not_mem_cons_of_ne_of_not_mem (Ne.symm other) unbroken)
  | next unbroken rest =>
    exact .next (List.not_mem_cons_of_ne_of_not_mem (Ne.symm other) unbroken) rest

theorem cutAfterNewlines_chunks (bytes : List UInt8) : CutAfterNewlines bytes (chunks bytes) := by
  fun_induction chunks bytes with
  | case1 => exact .done
  | case2 r ih =>
    have unbroken : newline ∉ ([] : List UInt8) := List.not_mem_nil
    exact .next unbroken ih
  | case3 b r other none ih =>
    rw [none] at ih
    cases ih
    exact .last (List.cons_ne_nil b []) (by simpa using Ne.symm other)
  | case4 b r other chunk cs some ih =>
    rw [some] at ih
    exact ih.cons other

lemma newline_not_mem_lines (cut : CutAfterNewlines bytes cs) :
    ∀ line ∈ cs.map ofChunk, '\n' ∉ line.toList := by
  intro line hl broken
  obtain ⟨chunk, hc, rfl⟩ := List.mem_map.mp hl
  have unbroken := (cut_unterminated chunk).newline_not_mem (cut.newline_not_mem hc)
  exact unbroken ((mirrors_decode _).newline_mem broken)

/-- Whatever the chunks are, each gives one line with its ASCII in order and a trace of every run of
other bytes; and where a stream is cut after its newlines, as it is when it is read, no line has a
newline in it. -/
theorem lines_keep_ascii (pieces : List (List UInt8)) :
    List.Forall₂ (fun chunk line => ∃ body, Cut chunk body ∧ Mirrors body line) pieces
      (pieces.map ofChunk) ∧
    (∀ bytes, CutAfterNewlines bytes pieces → ∀ line ∈ pieces.map ofChunk, '\n' ∉ line.toList) ∧
    ∀ bytes, CutAfterNewlines bytes (chunks bytes) ∧ ∀ line ∈ ofBytes bytes, '\n' ∉ line.toList := by
  refine ⟨?_, fun _ => newline_not_mem_lines, fun bytes => ?_⟩
  · rw [List.forall₂_map_right_iff, List.forall₂_same]
    exact fun chunk _ => ⟨unterminated chunk, cut_unterminated chunk, mirrors_decode _⟩
  · have cut := cutAfterNewlines_chunks bytes
    exact ⟨cut, newline_not_mem_lines cut⟩

/-- An overlong form and half of a surrogate are two runs of bytes, and no part of either is ASCII. -/
example : ofChunk [0xe0, 0x80, 0x41, 0xed, 0xa0, 0x0d, 0x0a] =
    "\ufffd\ufffdA\ufffd\ufffd" := by
  decide +kernel

end GridRobot.Line
