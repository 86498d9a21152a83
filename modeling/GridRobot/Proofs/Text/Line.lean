import GridRobot.Proofs.Text.Utf8
import GridRobot.Text.Line
import Mathlib.Data.List.Basic
import Mathlib.Tactic.Lemma

/-! A line is a chunk of bytes without its end, and a line of ASCII is those bytes themselves. Where
line ends are made the same, nothing changes within a line. -/
namespace GridRobot.Line

/-- What may end a line: nothing, a newline, or a newline after a carriage return. -/
def ends : List (List UInt8) := [[], [newline], [carriageReturn, newline]]

lemma eq_dropLast_append {chunk : List UInt8} {b : UInt8} (h : chunk.getLast? = some b) :
    chunk = chunk.dropLast ++ [b] :=
  (List.dropLast_append_getLast? b h).symm

/-- A chunk, and what is left of it without its end. -/
inductive Cut : List UInt8 → List UInt8 → Prop
  | unended {body : List UInt8} (last : body.getLast? ≠ some newline) : Cut body body
  | newline {body : List UInt8} (last : body.getLast? ≠ some carriageReturn) :
      Cut (body ++ [Line.newline]) body
  | returned {body : List UInt8} : Cut (body ++ [carriageReturn, Line.newline]) body

lemma unterminated_concat (body : List UInt8) :
    unterminated (body ++ [newline]) =
      if body.getLast? = some carriageReturn then body.dropLast else body := by
  rw [unterminated, List.getLast?_concat, if_pos rfl, List.dropLast_concat]

lemma Cut.unterminated {chunk body : List UInt8} (cut : Cut chunk body) : unterminated chunk = body := by
  cases cut with
  | unended last => exact if_neg last
  | newline last => rw [unterminated_concat, if_neg last]
  | returned =>
    rw [List.append_cons, unterminated_concat, List.getLast?_concat, if_pos rfl, List.dropLast_concat]

theorem cut_unterminated (chunk : List UInt8) : Cut chunk (unterminated chunk) := by
  have exists_body : ∃ body, Cut chunk body := by
    by_cases ended : chunk.getLast? = some newline
    · rw [eq_dropLast_append ended]
      by_cases returned : chunk.dropLast.getLast? = some carriageReturn
      · rw [eq_dropLast_append returned, List.append_assoc]
        exact ⟨_, .returned⟩
      · exact ⟨_, .newline returned⟩
    · exact ⟨_, .unended ended⟩
  obtain ⟨body, cut⟩ := exists_body
  exact cut.unterminated ▸ cut

/-- Nothing but one end of a line is removed from a chunk. -/
theorem exists_end (chunk : List UInt8) : ∃ e ∈ ends, chunk = unterminated chunk ++ e := by
  have cut := cut_unterminated chunk
  generalize unterminated chunk = body at cut ⊢
  cases cut with
  | unended last => exact ⟨[], by simp [ends], by simp⟩
  | newline last => exact ⟨[newline], by simp [ends], rfl⟩
  | returned => exact ⟨[carriageReturn, newline], by simp [ends], rfl⟩

/-- The bytes of a text of ASCII characters. -/
def asciiBytes (s : String) : List UInt8 := s.toList.map fun c => UInt8.ofNat c.toNat

/-- Only a chunk of ASCII gives a line of ASCII, and then the line is the chunk without its end. -/
theorem unterminated_of_ascii {chunk : List UInt8}
    (h : ∀ c ∈ (ofChunk chunk).toList, c.toNat < 0x80) :
    (∀ b ∈ unterminated chunk, b.toNat < 0x80) ∧
      unterminated chunk = asciiBytes (ofChunk chunk) := by
  simp only [ofChunk, String.toList_ofList, Utf8.decode] at h
  obtain ⟨-, ascii, same⟩ := Utf8.ascii_of_decodeFrom .ready h
  refine ⟨ascii, ?_⟩
  have back : ∀ b ∈ unterminated chunk, UInt8.ofNat (Char.ofNat b.toNat).toNat = id b := by
    intro b hb
    rw [Utf8.toNat_ofNat_of_ascii (ascii b hb), UInt8.ofNat_toNat]
    rfl
  simp only [asciiBytes, ofChunk, String.toList_ofList, Utf8.decode, same, List.map_map]
  exact ((List.map_congr_left back).trans (List.map_id _)).symm

section Unified

variable {run cs : List Char}

lemma eq_nil_of_prefix_newline {r : List Char} (h : run <+: '\n' :: r) (within : '\n' ∉ run) :
    run = [] := by
  cases run with
  | nil => rfl
  | cons c run =>
    obtain ⟨rfl, -⟩ := List.cons_prefix_cons.mp h
    exact absurd List.mem_cons_self within

lemma prefix_of_prefix_unifyEnds (h : run <+: unifyEnds cs) (within : '\n' ∉ run) : run <+: cs := by
  fun_induction unifyEnds cs generalizing run with
  | case1 => exact eq_nil_of_prefix_newline h within ▸ List.nil_prefix
  | case2 => exact eq_nil_of_prefix_newline h within ▸ List.nil_prefix
  | case3 c r notPair notReturn ih =>
    cases run with
    | nil => exact List.nil_prefix
    | cons d run =>
      obtain ⟨rfl, later⟩ := List.cons_prefix_cons.mp h
      exact List.cons_prefix_cons.mpr
        ⟨rfl, ih later fun inside => within (List.mem_cons_of_mem _ inside)⟩
  | case4 => exact h

/-- What stands within a line afterwards stood there before. -/
lemma infix_of_infix_unifyEnds (h : run <:+: unifyEnds cs) (within : '\n' ∉ run) :
    run <:+: cs := by
  fun_induction unifyEnds cs with
  | case1 r ih =>
    obtain here | later := List.infix_cons_iff.mp h
    · exact eq_nil_of_prefix_newline here within ▸ List.nil_infix
    · exact List.infix_cons (List.infix_cons (ih later))
  | case2 r alone ih =>
    obtain here | later := List.infix_cons_iff.mp h
    · exact eq_nil_of_prefix_newline here within ▸ List.nil_infix
    · exact List.infix_cons (ih later)
  | case3 c r notPair notReturn ih =>
    obtain here | later := List.infix_cons_iff.mp h
    · have whole : c :: unifyEnds r = unifyEnds (c :: r) := (unifyEnds.eq_3 c r notPair notReturn).symm
      exact (prefix_of_prefix_unifyEnds (whole ▸ here) within).isInfix
    · exact List.infix_cons (ih later)
  | case4 => exact h

lemma count_unifyEnds {c : Char} (cs : List Char) (within : c ≠ '\r' ∧ c ≠ '\n') :
    (unifyEnds cs).count c = cs.count c := by
  fun_induction unifyEnds cs with
  | case1 r ih => simp [ih, within.1.symm, within.2.symm]
  | case2 r alone ih => simp [ih, within.1.symm, within.2.symm]
  | case3 c' r notPair notReturn ih => simp [List.count_cons, ih]
  | case4 => rfl

end Unified

end GridRobot.Line
