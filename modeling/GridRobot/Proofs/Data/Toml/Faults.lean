import GridRobot.Data.Toml.Document
import GridRobot.Proofs.Data.Toml.Rest
import GridRobot.Proofs.Text.Line
import Mathlib.Tactic.Lemma

/-! A document that is well-formed but not read has more digits in a row than a number can have, or goes
deeper somewhere than there is room for. -/
namespace GridRobot.Toml

/-- The calls that are open if every bracket and brace opens a container inside the one before. -/
def weight (cs : List Char) : Nat := arrayCalls * cs.count '[' + tableCalls * cs.count '\x7b'

lemma weight_le_of_suffix {r cs : List Char} (h : r <:+ cs) : weight r ≤ weight cs :=
  Nat.add_le_add (Nat.mul_le_mul_left _ (h.sublist.count_le _))
    (Nat.mul_le_mul_left _ (h.sublist.count_le _))

lemma weight_bracket (r : List Char) : weight ('[' :: r) = weight r + arrayCalls := by
  have brace : ('\x7b' : Char) ≠ '[' := by decide
  rw [weight, weight, List.count_cons_self, List.count_cons_of_ne brace.symm, Nat.mul_succ]
  omega

lemma weight_brace (r : List Char) : weight ('\x7b' :: r) = weight r + tableCalls := by
  have bracket : ('[' : Char) ≠ '\x7b' := by decide
  rw [weight, weight, List.count_cons_self, List.count_cons_of_ne bracket.symm, Nat.mul_succ]
  omega

/-- What is in a text that cannot be read with some calls open around it. Where there is no room, no
more calls are open than the containers account for that were opened before. -/
def Fault.Caused (room : Room) (calls : Nat) (cs : List Char) : Fault → Prop
  | .malformed => True
  | .overlong _ => HasOverlongRun cs
  | .tooNested => ∃ deep r, r <:+ cs ∧ deep + weight r ≤ calls + weight cs ∧ room deep r = false

/-- The calls for a container are open around what is in it. -/
lemma Fault.Caused.of_inside {room : Room} {calls taken : Nat} {r cs : List Char} {f : Fault}
    (h : f.Caused room (calls + taken) r) (ending : r <:+ cs) (fits : weight r + taken ≤ weight cs) :
    f.Caused room calls cs := by
  cases f with
  | malformed => trivial
  | overlong n => exact HasOverlongRun.of_suffix h ending
  | tooNested =>
    obtain ⟨deep, q, inner, few, full⟩ := h
    exact ⟨deep, q, inner.trans ending, by omega, full⟩

/-- What a reader leaves is an end of the text, and if it fails the text has the cause. -/
def Follows {β : Type} (rest : β → List Char) (room : Room) (calls : Nat) (cs : List Char) :
    Except Fault β → Prop
  | .ok b => rest b <:+ cs
  | .error f => f.Caused room calls cs

section Follows

variable {β γ : Type} {rest : β → List Char} {rest' : γ → List Char} {room : Room}
  {calls taken : Nat} {cs r : List Char} {x : Except Fault β}

lemma Follows.of_inside (h : Follows rest room (calls + taken) r x) (ending : r <:+ cs)
    (fits : weight r + taken ≤ weight cs) : Follows rest room calls cs x := by
  cases x with
  | ok b => exact List.IsSuffix.trans h ending
  | error f => exact Fault.Caused.of_inside h ending fits

lemma Follows.of_suffix (h : Follows rest room calls r x) (ending : r <:+ cs) :
    Follows rest room calls cs x := by
  have inside : Follows rest room (calls + 0) r x := h
  exact inside.of_inside ending (weight_le_of_suffix ending)

lemma Follows.bind {f : β → Except Fault γ} (h : Follows rest room calls cs x)
    (next : ∀ b, Follows rest' room calls (rest b) (f b)) :
    Follows rest' room calls cs (x >>= f) := by
  cases x with
  | ok b => exact (next b).of_suffix h
  | error f => exact h

lemma Follows.map {f : β → γ} (h : Follows rest room calls cs x)
    (kept : ∀ b, rest' (f b) <:+ rest b) : Follows rest' room calls cs (x.map f) := by
  cases x with
  | ok b => exact (kept b).trans h
  | error f => exact h

lemma follows_malformed : Follows rest room calls cs (.error .malformed) := trivial

lemma follows_orMalformed {o : Option β} (h : Leaves rest cs o) :
    Follows rest room calls cs (orMalformed o) := by
  cases o with
  | none => trivial
  | some b => exact h b rfl

/-- A check reads nothing. -/
lemma follows_check (room : Room) (calls : Nat) (cs : List Char) (o : Option β) :
    Follows (fun _ => cs) room calls cs (orMalformed o) :=
  follows_orMalformed fun _ _ => List.suffix_refl cs

lemma follows_room (room : Room) (calls : Nat) (cs : List Char) :
    Follows (fun _ => cs) room calls cs (room.check calls cs) := by
  unfold Room.check
  split
  · exact List.suffix_refl cs
  · rename_i full
    exact ⟨calls, cs, List.suffix_refl cs, Nat.le_refl _, Bool.eq_false_iff.mpr full⟩

end Follows

section Keys

variable (room : Room) (calls : Nat) (cs : List Char)

lemma follows_skipComment : Follows id room calls cs (skipComment cs) := by
  unfold skipComment
  split
  · split
    · exact follows_malformed
    · exact (List.dropWhile_suffix _).trans (List.suffix_cons _ _)
  · exact List.suffix_refl _

lemma follows_skipFiller (inComment : Bool) : Follows id room calls cs (skipFiller inComment cs) := by
  fun_induction skipFiller inComment cs with
  | case1 => exact List.suffix_refl _
  | case2 r ih => exact ih.of_suffix (List.suffix_cons _ _)
  | case3 c r inside control => exact follows_malformed
  | case4 c r inside plain ih => exact ih.of_suffix (List.suffix_cons _ _)
  | case5 r ih => exact ih.of_suffix (List.suffix_cons _ _)
  | case6 c r begun blank ih => exact ih.of_suffix (List.suffix_cons _ _)
  | case7 c r begun other => exact List.suffix_refl _

lemma follows_readKeyPart : Follows Prod.snd room calls cs (readKeyPart cs) := by
  unfold readKeyPart
  split
  · exact (follows_orMalformed (leaves_readLineText cs)).map fun p => List.suffix_refl p.2
  · exact List.dropWhile_suffix _

lemma follows_readKeyParts (n : Nat) : Follows Prod.snd room calls cs (readKeyParts n cs) := by
  induction n generalizing cs with
  | zero => exact follows_malformed
  | succ n ih =>
    refine (follows_readKeyPart room calls cs).bind fun p => Follows.of_suffix ?_ (skipSpace_suffix p.2)
    dsimp only
    split
    · rename_i q dot
      rw [dot]
      refine Follows.of_suffix ?_ ((skipSpace_suffix q).trans (List.suffix_cons '.' q))
      exact (ih _).bind fun p => List.suffix_refl p.2
    · exact List.suffix_refl _

lemma follows_readKey : Follows Prod.snd room calls cs (readKey cs) := follows_readKeyParts room calls cs _

end Keys

section Values

lemma follows_readQuoted (room : Room) (calls : Nat) (cs : List Char) :
    Follows Prod.snd room calls cs (readValue.readQuoted cs) :=
  (follows_orMalformed (leaves_readText cs)).map fun p => List.suffix_refl p.2

/-- What is neither quoted nor a container. -/
lemma follows_scalar (room : Room) (calls : Nat) (cs : List Char) : Follows Prod.snd room calls cs
    (match readMoment? cs with
      | some (some m, r) => .ok (Data.moment m, r)
      | some (none, _) => .error .malformed
      | none =>
        match readNumber? cs with
        | some (.ok x) => .ok x
        | some (.error e) => .error (.overlong e)
        | none => .error .malformed) := by
  split
  · rename_i read
    exact leaves_readMoment? cs _ read
  · exact follows_malformed
  · split
    · rename_i read
      exact numbered_readNumber? read
    · rename_i read
      exact numbered_readNumber? read
    · exact follows_malformed

mutual

-- The induction is on the steps that are left; calls are opened only where a bracket is passed.
theorem follows_readValue (room : Room) : ∀ (n calls : Nat) (cs : List Char),
    Follows Prod.snd room calls cs (readValue room n calls cs)
  | 0, _, _ => by
    rw [readValue]
    exact follows_malformed
  | n + 1, calls, cs => by
    unfold readValue
    refine (follows_room room calls cs).bind fun _ => ?_
    split
    · exact follows_readQuoted room calls _
    · exact follows_readQuoted room calls _
    · rename_i r
      exact List.suffix_append ['t', 'r', 'u', 'e'] r
    · rename_i r
      exact List.suffix_append ['f', 'a', 'l', 's', 'e'] r
    · rename_i r
      refine Follows.of_inside ?_ (List.suffix_cons '[' r) (Nat.le_of_eq (weight_bracket r).symm)
      refine (follows_skipFiller room _ r false).bind fun q => ?_
      exact (follows_readItems room n _ q).bind fun p => List.suffix_refl p.2
    · rename_i r
      refine Follows.of_inside ?_ (List.suffix_cons '\x7b' r) (Nat.le_of_eq (weight_brace r).symm)
      refine Follows.of_suffix ?_ (skipSpace_suffix r)
      split
      · rename_i q empty
        rw [empty]
        exact List.suffix_cons _ _
      · exact (follows_readPairs room n _ _ _).bind fun p => List.suffix_refl p.2
    · exact follows_scalar room calls _

theorem follows_readItems (room : Room) : ∀ (n calls : Nat) (cs : List Char),
    Follows Prod.snd room calls cs (readItems room n calls cs)
  | 0, _, _ => by
    rw [readItems]
    exact follows_malformed
  | n + 1, calls, cs => by
    unfold readItems
    split
    · exact List.suffix_cons _ _
    · refine (follows_readValue room n calls _).bind fun p => ?_
      refine (follows_skipFiller room calls p.2 false).bind fun r => ?_
      split
      · exact List.suffix_cons _ _
      · rename_i q
        refine Follows.of_suffix ?_ (List.suffix_cons ',' q)
        refine (follows_skipFiller room calls q false).bind fun q => ?_
        exact (follows_readItems room n calls q).bind fun p => List.suffix_refl p.2
      · exact follows_malformed

theorem follows_readPairs (room : Room) : ∀ (n calls : Nat) (t : Inline) (cs : List Char),
    Follows Prod.snd room calls cs (readPairs room n calls t cs)
  | 0, _, _, _ => by
    rw [readPairs]
    exact follows_malformed
  | n + 1, calls, t, cs => by
    unfold readPairs
    refine (follows_readKey room calls cs).bind fun p => ?_
    dsimp only
    split
    · rename_i r given
      rw [given]
      refine Follows.of_suffix ?_ ((skipSpace_suffix r).trans (List.suffix_cons '=' r))
      refine (follows_readValue room n calls _).bind fun p => ?_
      refine (follows_check room calls p.2 _).bind fun t => ?_
      refine Follows.of_suffix ?_ (skipSpace_suffix p.2)
      split
      · rename_i q closed
        rw [closed]
        exact List.suffix_cons _ _
      · rename_i q more
        rw [more]
        refine Follows.of_suffix ?_ ((skipSpace_suffix q).trans (List.suffix_cons ',' q))
        exact follows_readPairs room n calls t _
      · exact follows_malformed
    · exact follows_malformed

end

end Values

namespace Document

variable (room : Room) (d : Document) (cs : List Char)

lemma follows_readHeader : Follows Prod.snd room 0 cs (d.readHeader cs) := by
  unfold readHeader
  split
  · rename_i r
    refine Follows.of_suffix ?_ ((skipSpace_suffix r).trans (List.suffix_cons '[' r))
    refine (follows_readKey room 0 _).bind fun p => ?_
    refine (follows_check room 0 p.2 _).bind fun d => ?_
    split
    · rename_i q closed
      rw [closed]
      exact List.suffix_append [']', ']'] q
    · exact follows_malformed
  · refine Follows.of_suffix ?_ (skipSpace_suffix cs)
    refine (follows_readKey room 0 _).bind fun p => ?_
    refine (follows_check room 0 p.2 _).bind fun d => ?_
    split
    · rename_i q closed
      rw [closed]
      exact List.suffix_cons _ _
    · exact follows_malformed

lemma follows_readPair : Follows Prod.snd room 0 cs (readPair room d cs) := by
  unfold readPair
  refine (follows_readKey room 0 cs).bind fun p => ?_
  dsimp only
  split
  · rename_i r given
    rw [given]
    refine Follows.of_suffix ?_ ((skipSpace_suffix r).trans (List.suffix_cons '=' r))
    refine (follows_readValue room _ 0 _).bind fun p => ?_
    exact (follows_check room 0 p.2 _).bind fun d => List.suffix_refl p.2
  · exact follows_malformed

lemma follows_readStatement : Follows Prod.snd room 0 cs (readStatement room d cs) := by
  unfold readStatement
  split
  · exact (follows_readHeader room _ _).of_suffix (List.suffix_cons _ _)
  · exact List.suffix_refl _
  · exact follows_readPair room d _

lemma follows_readLines (n : Nat) : Follows (fun _ => []) room 0 cs (readLines room n d cs) := by
  induction n generalizing d cs with
  | zero => exact follows_malformed
  | succ n ih =>
    unfold readLines
    refine (follows_room room 0 cs).bind fun _ => ?_
    refine Follows.of_suffix ?_ (skipSpace_suffix cs)
    split
    · exact List.nil_suffix
    · rename_i r blank
      rw [blank]
      exact (ih d r).of_suffix (List.suffix_cons _ _)
    · refine (follows_readStatement room d _).bind fun p => ?_
      refine Follows.of_suffix ?_ (skipSpace_suffix p.2)
      refine (follows_skipComment room 0 _).bind fun r => ?_
      split
      · exact List.nil_suffix
      · exact (ih p.1 _).of_suffix (List.suffix_cons _ _)
      · exact follows_malformed

end Document

variable {room : Room} {cs : List Char}

/-- A document that is not read has the cause of that in its text, once its line ends are the same. -/
lemma caused_of_ofChars {f : Fault} (fails : ofChars room cs = .error f) :
    f.Caused room 0 (Line.unifyEnds cs) := by
  have lines := Document.follows_readLines room .empty (Line.unifyEnds cs)
    ((Line.unifyEnds cs).length + 1)
  rw [ofChars] at fails
  cases read : Document.readLines room ((Line.unifyEnds cs).length + 1) .empty
      (Line.unifyEnds cs) with
  | ok d =>
    rw [read] at fails
    cases fails
  | error f' =>
    rw [read] at fails lines
    obtain rfl : f' = f := Except.error.inj fails
    exact lines

/-- No line ends are among the digits that are too many. -/
theorem hasOverlongRun_of_ofChars {e : OverlongNumeral} (fails : ofChars room cs = .error (.overlong e)) :
    HasOverlongRun cs := by
  obtain ⟨run, inside, only, long⟩ := caused_of_ofChars fails
  refine ⟨run, Line.infix_of_infix_unifyEnds inside fun newline => ?_, only, long⟩
  exact absurd (only _ newline) (by decide)

/-- There is a place in the text where there was no room, with no more calls open than its brackets and
braces up to there account for. -/
theorem full_of_ofChars (fails : ofChars room cs = .error .tooNested) :
    ∃ calls r, r <:+ Line.unifyEnds cs ∧ calls + weight r ≤ weight cs ∧ room calls r = false := by
  obtain ⟨calls, r, ending, few, full⟩ := caused_of_ofChars fails
  have same : weight (Line.unifyEnds cs) = weight cs := by
    rw [weight, weight, Line.count_unifyEnds cs (by decide), Line.count_unifyEnds cs (by decide)]
  exact ⟨calls, r, ending, by omega, full⟩

end GridRobot.Toml
