import GridRobot.Outcome.Rendering
import GridRobot.Proofs.Text.Joined

/-! Lines without control characters are printed as they are: nothing is dropped from them or put into
them, so that the text is the lines with a line break between each two. -/
namespace GridRobot

lemma Column.expandTabsFrom_of_not_mem {cs : List Char} (p : Cursor) (absent : '\t' ∉ cs) :
    expandTabsFrom p cs = cs := by
  fun_induction expandTabsFrom p cs with
  | case1 p => rfl
  | case2 p r column ih => exact absurd List.mem_cons_self absent
  | case3 p r ih => rw [ih fun later => absent (List.mem_cons_of_mem _ later)]
  | case4 p c r notTab notNewline ih =>
    rw [ih fun later => absent (List.mem_cons_of_mem _ later)]

namespace Outcome

/-- No control character, and so no line break and no tab. -/
def IsVisible (cs : List Char) : Prop := ∀ c ∈ cs, 0x20 ≤ c.toNat

instance (cs : List Char) : Decidable (IsVisible cs) :=
  List.decidableBAll (fun c : Char => 0x20 ≤ c.toNat) cs

variable {cs ds : List Char} {lines : List (List Char)}

lemma isVisible_append : IsVisible (cs ++ ds) ↔ IsVisible cs ∧ IsVisible ds :=
  List.forall_mem_append

lemma IsVisible.not_mem (visible : IsVisible cs) {c : Char} (control : c.toNat < 0x20) : c ∉ cs :=
  fun hc => absurd (visible c hc) (Nat.not_le.mpr control)

lemma not_isDropped {c : Char} (visible : 0x20 ≤ c.toNat) : isDropped c = false := by
  simp only [isDropped, List.contains_eq_mem, decide_eq_false_iff_not, List.mem_cons,
    List.not_mem_nil, or_false]
  omega

/-- Visible lines with something in them end in a character that is no line break. -/
lemma exists_last_of_intercalate (filled : lines ≠ [])
    (visible : ∀ l ∈ lines, l ≠ [] ∧ IsVisible l) :
    ∃ body c, ['\n'].intercalate lines = body ++ [c] ∧ c ≠ '\n' := by
  induction lines with
  | nil => exact absurd rfl filled
  | cons l lines ih =>
    cases lines with
    | nil =>
      obtain ⟨some, clear⟩ := visible l List.mem_cons_self
      refine ⟨l.dropLast, l.getLast some, ?_, ?_⟩
      · rw [List.intercalate_singleton, List.dropLast_concat_getLast]
      · exact ne_of_mem_of_not_mem (List.getLast_mem some) (clear.not_mem (by decide))
    | cons next lines =>
      obtain ⟨body, c, same, plain⟩ :=
        ih (List.cons_ne_nil _ _) fun l hl => visible l (List.mem_cons_of_mem _ hl)
      refine ⟨l ++ ['\n'] ++ body, c, ?_, plain⟩
      rw [List.intercalate_cons_cons, same, ← List.append_assoc]

/-- Where line breaks are the only control characters, nothing is dropped or expanded. -/
lemma expandTabs_filter (shown : ∀ c ∈ cs, 0x20 ≤ c.toNat ∨ c = '\n') :
    Column.expandTabs (cs.filter fun c => !isDropped c) = cs := by
  have kept : (cs.filter fun c => !isDropped c) = cs := by
    rw [List.filter_eq_self]
    intro c hc
    rcases shown c hc with clear | rfl
    · rw [not_isDropped clear]
      rfl
    · decide
  rw [kept]
  exact Column.expandTabsFrom_of_not_mem _ fun tab =>
    (shown '\t' tab).elim (by decide) (by decide)

/-- Only the line break behind the last line is taken away again. -/
theorem printed_of_visible (filled : lines ≠ [])
    (visible : ∀ l ∈ lines, l ≠ [] ∧ IsVisible l) :
    printed lines = ['\n'].intercalate lines := by
  have ended : (lines.flatMap fun l => l ++ ['\n']) = ['\n'].intercalate lines ++ ['\n'] :=
    (intercalate_append_separator '\n' filled).symm
  have shown : ∀ c ∈ lines.flatMap fun l => l ++ ['\n'], 0x20 ≤ c.toNat ∨ c = '\n' := by
    intro c hc
    obtain ⟨l, hl, inside⟩ := List.mem_flatMap.mp hc
    rcases List.mem_append.mp inside with body | last
    · exact .inl ((visible l hl).2 c body)
    · exact .inr (List.mem_singleton.mp last)
  -- The last line has something in it, so that there is one line break only at the very end.
  obtain ⟨body, c, same, plain⟩ := exists_last_of_intercalate filled visible
  simp only [printed]
  rw [expandTabs_filter shown, ended, same]
  simp [plain]

/-- The lines are found again where the text is split at its line breaks. -/
theorem splitOn_printed (filled : lines ≠ [])
    (visible : ∀ l ∈ lines, l ≠ [] ∧ IsVisible l) :
    (printed lines).splitOn '\n' = lines := by
  rw [printed_of_visible filled visible]
  exact List.splitOn_intercalate '\n' (fun l hl => (visible l hl).2.not_mem (by decide)) filled

end Outcome
end GridRobot
