import GridRobot.Proofs.Data.Json.Number
import GridRobot.Proofs.Data.Json.Text
import GridRobot.Proofs.Data.Plain
import GridRobot.Proofs.Result
import Mathlib.Tactic.Lemma

/-! Data without fractions and dates is read back from JSON as it was written, in any style. -/
namespace GridRobot.Json

/-- A comma and a colon, with nothing but blanks after them. -/
structure Style.Standard (s : Style) : Prop where
  comma : ∃ blanks, s.comma = ',' :: blanks ∧ blanks.all isBlank
  colon : ∃ blanks, s.colon = ':' :: blanks ∧ blanks.all isBlank

lemma Style.standard_of_mem : ∀ s ∈ [record, indented, inline, log], s.Standard := by
  intro s listed
  simp only [List.mem_cons, List.not_mem_nil, or_false] at listed
  rcases listed with rfl | rfl | rfl | rfl
  · exact ⟨⟨[], rfl, rfl⟩, [], rfl, rfl⟩
  · exact ⟨⟨[], rfl, rfl⟩, [' '], rfl, rfl⟩
  · exact ⟨⟨[], rfl, rfl⟩, [], rfl, rfl⟩
  · exact ⟨⟨[' '], rfl, rfl⟩, [' '], rfl, rfl⟩

section Blanks

variable {blanks r : List Char} {c : Char}

lemma skipBlank_append (h : blanks.all isBlank) : skipBlank (blanks ++ r) = skipBlank r :=
  List.dropWhile_append_of_pos fun a ha => List.all_eq_true.mp h a ha

lemma skipBlank_cons (h : isBlank c = false) : skipBlank (c :: r) = c :: r := by
  simp [skipBlank, h]

lemma lineBreak_blank (s : Style) (level : Nat) : (lineBreak s level).all isBlank := by
  unfold lineBreak
  split
  · rfl
  · simp [isBlank]

end Blanks

section Steps

variable {d : Dialect} {n depth : Nat} {c : Char} {t u v r q : List Char} {x : Data}

lemma readValue_number (number : c = '-' ∨ c.isDigit = true) :
    readValue d (n + 1) depth (c :: t) = orMalformed (readNumber d (c :: t)) := by
  have other : c ∉ ['n', 't', 'f', '"', '[', '\x7b'] := by
    intro listed
    simp only [List.mem_cons, List.not_mem_nil, or_false] at listed
    rcases listed with rfl | rfl | rfl | rfl | rfl | rfl <;> exact absurd number (by decide)
  simp only [List.mem_cons, List.not_mem_nil, or_false, not_or] at other
  obtain ⟨null, yes, no, quote, bracket, brace⟩ := other
  rw [readValue]
  · exact fun _ h => null (List.cons.inj h).1
  · exact fun _ h => yes (List.cons.inj h).1
  · exact fun _ h => no (List.cons.inj h).1
  · exact fun _ h => quote (List.cons.inj h).1
  · exact fun _ h => bracket (List.cons.inj h).1
  · exact fun _ h => brace (List.cons.inj h).1

lemma readValue_text {cs : List Char} (h : readText n t = some (cs.map Char.toNat, r)) :
    readValue d (n + 1) depth ('"' :: t) = .ok (.text (String.ofList cs), r) := by
  have whole : d.text? (cs.map Char.toNat) = some (.text (String.ofList cs)) := by
    rw [Dialect.text?, CodePoint.chars?_map_toNat]
  rw [readValue, h]
  refine bind_eq_ok_iff.mpr ⟨_, rfl, bind_eq_ok_iff.mpr ⟨_, ?_, rfl⟩⟩
  rw [whole]
  rfl

lemma readValue_list_nil (room : 0 < depth) :
    readValue d (n + 1) depth ('[' :: ']' :: r) = .ok (.list [], r) := by
  have deep : (depth == 0) = false := beq_false_of_ne (Nat.ne_of_gt room)
  simp [readValue, skipBlank, isBlank, deep]

lemma readValue_object_nil (room : 0 < depth) :
    readValue d (n + 1) depth ('\x7b' :: '\x7d' :: r) = .ok (.object [], r) := by
  have deep : (depth == 0) = false := beq_false_of_ne (Nat.ne_of_gt room)
  simp [readValue, skipBlank, isBlank, deep]

lemma readValue_list_cons (start : skipBlank t = u) (head : u.head? ≠ some ']') :
    readValue d (n + 1) (depth + 1) ('[' :: t) =
      (readValue d n depth u >>= fun p =>
        (readItems d n depth (skipBlank p.2)).map fun q => (.list (p.1 :: q.1), q.2)) := by
  rw [readValue.eq_def]
  simp only [start]
  split
  · exact absurd rfl head
  · contradiction
  · rename_i level
    cases level
    exact bind_congr fun p => (map_eq_bind _ _).symm

lemma readValue_object_cons (start : skipBlank t = u) (head : u.head? ≠ some '\x7d') :
    readValue d (n + 1) (depth + 1) ('\x7b' :: t) =
      (readMember d n depth u >>= fun p => (readMembers d n depth (skipBlank p.2)).map fun q =>
        (.object (Members.ofList (p.1 ++ q.1)), q.2)) := by
  rw [readValue.eq_def]
  simp only [start]
  split
  · exact absurd rfl head
  · contradiction
  · rename_i level
    cases level
    exact bind_congr fun p => (map_eq_bind _ _).symm

lemma readItems_nil : readItems d (n + 1) depth (']' :: r) = .ok ([], r) := by rw [readItems]

lemma readItems_cons :
    readItems d (n + 1) depth (',' :: t) =
      (readValue d n depth (skipBlank t) >>= fun p =>
        (readItems d n depth (skipBlank p.2)).map fun q => (p.1 :: q.1, q.2)) := by
  rw [readItems]
  exact bind_congr fun p => (map_eq_bind _ _).symm

lemma readMember_cons {k : List Char} (name : readText n t = some (k.map Char.toNat, u))
    (colon : skipBlank u = ':' :: v) :
    readMember d (n + 1) depth ('"' :: t) =
      (readValue d n depth (skipBlank v)).map fun p => ([(String.ofList k, p.1)], p.2) := by
  have whole : d.names? (k.map Char.toNat) = some [String.ofList k] := by
    rw [Dialect.names?, CodePoint.chars?_map_toNat]
  rw [readMember, name]
  simp only [orMalformed, whole, colon, bind, Except.bind]
  cases readValue d n depth (skipBlank v) <;> rfl

lemma readMembers_nil : readMembers d (n + 1) depth ('\x7d' :: r) = .ok ([], r) := by
  rw [readMembers]

lemma readMembers_cons :
    readMembers d (n + 1) depth (',' :: t) =
      (readMember d n depth (skipBlank t) >>= fun p =>
        (readMembers d n depth (skipBlank p.2)).map fun q => (p.1 ++ q.1, q.2)) := by
  rw [readMembers]
  exact bind_congr fun p => (map_eq_bind _ _).symm

end Steps

section GivesIf

variable {α β : Type} {p q : Prop} {a : α} {b : β} {x : Except Fault α}

/-- A reader gives a value if that is as it should be, and else it complains. -/
def GivesIf (p : Prop) (a : α) (x : Except Fault α) : Prop :=
  (p → x = .ok a) ∧ (¬ p → x = .error .malformed)

lemma GivesIf.of_eq (holds : p) (given : x = .ok a) : GivesIf p a x :=
  ⟨fun _ => given, fun fails => absurd holds fails⟩

lemma GivesIf.congr (h : GivesIf p a x) (same : p ↔ q) : GivesIf q a x :=
  ⟨fun hq => h.1 (same.mpr hq), fun hq => h.2 (mt same.mp hq)⟩

lemma GivesIf.map (f : α → β) (h : GivesIf p a x) : GivesIf p (f a) (x.map f) :=
  ⟨fun hp => by rw [h.1 hp]; rfl, fun hp => by rw [h.2 hp]; rfl⟩

/-- Of two readers the first one complains before the second is asked. -/
lemma GivesIf.bind {f : α → Except Fault β} (h : GivesIf p a x) (next : GivesIf q b (f a)) :
    GivesIf (p ∧ q) b (x >>= f) := by
  by_cases hp : p
  · have same : x >>= f = f a := by
      rw [h.1 hp]
      rfl
    exact same ▸ next.congr ⟨fun hq => ⟨hp, hq⟩, And.right⟩
  · have fails : x >>= f = .error .malformed := by
      rw [h.2 hp]
      rfl
    exact ⟨fun both => absurd both.1 hp, fun _ => fails⟩

end GivesIf

section Written

variable {s : Style} {d : Dialect} {counting : Option Decimal.Counting} {n depth level k : Nat}
  {r : List Char} {x : Data}

lemma write_list_cons {xs : List Data} :
    write s level (.list (x :: xs)) = '[' :: (lineBreak s (level + 1) ++ (write s (level + 1) x ++
      (writeItems s (level + 1) xs ++ (lineBreak s level ++ [']'])))) := by
  simp only [write, List.cons_append, List.append_assoc]

lemma writeItems_cons {xs : List Data} :
    writeItems s level (x :: xs) =
      s.comma ++ (lineBreak s level ++ (write s level x ++ writeItems s level xs)) := by
  simp only [writeItems, List.append_assoc]

lemma write_object_cons {m : String × Data} {ms : List (String × Data)} :
    write s level (.object (m :: ms)) = '\x7b' :: (lineBreak s (level + 1) ++
      (writeText s.ascii m.1.toList ++ (s.colon ++ (write s (level + 1) m.2 ++
        (writeMembers s (level + 1) ms ++ (lineBreak s level ++ ['\x7d'])))))) := by
  simp only [write, List.cons_append, List.append_assoc]

lemma writeMembers_cons {m : String × Data} {ms : List (String × Data)} :
    writeMembers s level (m :: ms) = s.comma ++ (lineBreak s level ++
      (writeText s.ascii m.1.toList ++ (s.colon ++ (write s level m.2 ++
        writeMembers s level ms)))) := by
  simp only [writeMembers, List.append_assoc]

/-- What is written for a value starts with no blank and with no bracket that closes a list. -/
lemma head_write (s : Style) (level : Nat) (plain : x.IsPlain counting) :
    ∃ c t, write s level x = c :: t ∧ isBlank c = false ∧ c ≠ ']' := by
  cases x with
  | null => exact ⟨_, _, rfl, by decide⟩
  | bool b => cases b <;> exact ⟨_, _, rfl, by decide⟩
  | int i =>
    obtain ⟨c, t, first, number⟩ := head_ofInt i
    refine ⟨c, t, by rw [write, first], ?_⟩
    have other : c ∉ [' ', '\t', '\n', '\r', ']'] := by
      intro listed
      simp only [List.mem_cons, List.not_mem_nil, or_false] at listed
      rcases listed with rfl | rfl | rfl | rfl | rfl <;> exact absurd number (by decide)
    simpa [isBlank, and_assoc] using other
  | float y => exact plain.elim
  | text t => exact ⟨'"', _, by rw [write, writeText], by decide⟩
  | unpaired codes => exact plain.elim
  | moment m => exact plain.elim
  | list xs =>
    cases xs with
    | nil => exact ⟨'[', _, by rw [write], by decide⟩
    | cons y ys => exact ⟨'[', _, write_list_cons, by decide⟩
  | object ms =>
    cases ms with
    | nil => exact ⟨'\x7b', _, by rw [write], by decide⟩
    | cons m ms => exact ⟨'\x7b', _, write_object_cons, by decide⟩

lemma skipBlank_write (plain : x.IsPlain counting) :
    skipBlank (write s level x ++ r) = write s level x ++ r := by
  obtain ⟨c, t, first, blank, -⟩ := head_write s level plain
  rw [first, List.cons_append, skipBlank_cons blank]

lemma skipBlank_writeText (ascii : Bool) (cs : List Char) :
    skipBlank (writeText ascii cs ++ r) = writeText ascii cs ++ r := by
  rw [writeText, List.cons_append]
  exact skipBlank_cons (by decide)

lemma head?_write (plain : x.IsPlain counting) : (write s level x ++ r).head? ≠ some ']' := by
  obtain ⟨c, t, first, -, other⟩ := head_write s level plain
  rw [first, List.cons_append, List.head?_cons]
  exact fun same => other (Option.some.inj same)

lemma ends_lineBreak {c : Char} (digit : c.isDigit = false) (other : c ≠ '.' ∧ c ≠ 'e' ∧ c ≠ 'E') :
    Ends (lineBreak s level ++ c :: r) := by
  unfold lineBreak
  split
  · exact ends_cons digit other
  · exact ends_cons (by decide) (by decide)

lemma ends_writeItems (hs : s.Standard) (xs : List Data) (h : Ends r) :
    Ends (writeItems s level xs ++ r) := by
  obtain ⟨blanks, comma, -⟩ := hs.comma
  cases xs with
  | nil => rwa [writeItems, List.nil_append]
  | cons x xs =>
    simp only [writeItems, comma, List.cons_append]
    exact ends_cons (by decide) (by decide)

lemma ends_writeMembers (hs : s.Standard) (ms : List (String × Data)) (h : Ends r) :
    Ends (writeMembers s level ms ++ r) := by
  obtain ⟨blanks, comma, -⟩ := hs.comma
  cases ms with
  | nil => rwa [writeMembers, List.nil_append]
  | cons m ms =>
    simp only [writeMembers, comma, List.cons_append]
    exact ends_cons (by decide) (by decide)

lemma skipBlank_lineBreak : skipBlank (lineBreak s level ++ r) = skipBlank r :=
  skipBlank_append (lineBreak_blank s level)

/-- A name with its value is read as the value is. -/
lemma readMember_write (hs : s.Standard) (key : String) (plain : x.IsPlain counting)
    (room : key.toList.length < n) {whole : Prop}
    (value : GivesIf whole (x, r) (readValue d n depth (write s level x ++ r))) :
    GivesIf whole ([(key, x)], r) (readMember d (n + 1) depth
      (writeText s.ascii key.toList ++ (s.colon ++ (write s level x ++ r)))) := by
  obtain ⟨blanks, colon, blank⟩ := hs.colon
  have name := readText_write (r := s.colon ++ (write s level x ++ r)) s.ascii key.toList room
  have after : skipBlank (s.colon ++ (write s level x ++ r)) =
      ':' :: (blanks ++ (write s level x ++ r)) := by
    rw [colon]
    exact skipBlank_cons (by decide)
  have read : readMember d (n + 1) depth _ = _ := readMember_cons name after
  rw [String.ofList_toList, skipBlank_append blank, skipBlank_write plain] at read
  simp only [writeText, List.cons_append, List.append_assoc, List.nil_append]
  rw [read]
  exact value.map _

mutual

/-- It takes no more than a step for each character that was written and room for the depth. A number
with too many digits is all that the reader can complain about. -/
theorem readValue_write (hs : s.Standard) :
    ∀ (x : Data) {level n depth : Nat} {r : List Char}, x.IsPlain none → x.depth ≤ depth →
      (write s level x).length < n → Ends r →
        GivesIf (x.IsPlain d.counting) (x, r) (readValue d n depth (write s level x ++ r))
  | x, _, 0, _, _, _, _, steps, _ => absurd steps (Nat.not_lt_zero _)
  | .null, _, n + 1, _, _, _, _, _, _ => .of_eq trivial (by rw [write]; simp [readValue])
  | .bool true, _, n + 1, _, _, _, _, _, _ => .of_eq trivial (by rw [write]; simp [readValue])
  | .bool false, _, n + 1, _, _, _, _, _, _ => .of_eq trivial (by rw [write]; simp [readValue])
  | .int i, _, n + 1, _, r, _, _, _, ends => by
    obtain ⟨c, t, first, number⟩ := head_ofInt i
    have read := readNumber_ofInt d i ends
    rw [write]
    rw [first, List.cons_append] at read ⊢
    rw [readValue_number number, read]
    constructor
    · intro short
      rw [if_neg (mt refuses_eq_true_iff.mp fun ⟨k, hk, long⟩ => long (short k hk))]
      rfl
    · intro long
      rw [if_pos (refuses_eq_true_iff.mpr (by simpa [Data.IsPlain] using long))]
      rfl
  | .float _, _, _ + 1, _, _, plain, _, _, _ => plain.elim
  | .text t, _, n + 1, depth, r, _, _, steps, _ => by
    rw [write] at steps ⊢
    have shorter := length_writeText s.ascii t.toList
    have read := readText_write (n := n) (r := r) s.ascii t.toList (by omega)
    have value : readValue d (n + 1) depth _ = .ok (_, r) := readValue_text read
    rw [String.ofList_toList] at value
    simp only [writeText, List.cons_append, List.append_assoc, List.nil_append]
    exact .of_eq trivial value
  | .unpaired _, _, _ + 1, _, _, plain, _, _, _ => plain.elim
  | .moment _, _, _ + 1, _, _, plain, _, _, _ => plain.elim
  | .list [], _, n + 1, _, _, _, room, _, _ => by
    rw [write]
    exact .of_eq trivial (readValue_list_nil room)
  | .list (_ :: _), _, _ + 1, 0, _, _, room, _, _ => absurd room (Nat.not_succ_le_zero _)
  | .list (x :: xs), level, n + 1, depth + 1, r, plain, room, steps, _ => by
    simp only [Data.depth, Data.depthOfItems] at room
    rw [write_list_cons] at steps ⊢
    simp only [List.length_cons, List.length_append] at steps
    simp only [List.cons_append, List.append_assoc, List.nil_append]
    have next : Ends (writeItems s (level + 1) xs ++ (lineBreak s level ++ ']' :: r)) :=
      ends_writeItems hs xs (ends_lineBreak (by decide) (by decide))
    have value : GivesIf _ _ (readValue d n depth (write s (level + 1) x ++ _)) :=
      readValue_write hs x plain.1 (by omega) (by omega) next
    have rest : GivesIf _ _ (readItems d n depth (skipBlank (writeItems s (level + 1) xs ++
        (lineBreak s level ++ ']' :: r)))) :=
      readItems_write hs xs plain.2 (by omega) (by omega)
    rw [readValue_list_cons (by rw [skipBlank_lineBreak, skipBlank_write plain.1])
      (head?_write plain.1)]
    exact value.bind (rest.map _)
  | .object [], _, n + 1, _, _, _, room, _, _ => by
    rw [write]
    exact .of_eq ⟨List.nodup_nil, trivial⟩ (readValue_object_nil room)
  | .object (_ :: _), _, _ + 1, 0, _, _, room, _, _ => absurd room (Nat.not_succ_le_zero _)
  | .object ((key, x) :: ms), level, n + 1, depth + 1, r, plain, room, steps, _ => by
    have shorter := length_writeText s.ascii key.toList
    simp only [Data.depth, Data.depthOfMembers] at room
    rw [write_object_cons] at steps ⊢
    simp only [List.length_cons, List.length_append] at steps
    simp only [List.cons_append, List.append_assoc, List.nil_append]
    -- A member takes a step of its own before its value is read.
    obtain ⟨k, rfl⟩ : ∃ k, n = k + 1 := ⟨n - 1, by omega⟩
    have next : Ends (writeMembers s (level + 1) ms ++ (lineBreak s level ++ '\x7d' :: r)) :=
      ends_writeMembers hs ms (ends_lineBreak (by decide) (by decide))
    have value : GivesIf _ _ (readValue d k depth (write s (level + 1) x ++ _)) :=
      readValue_write hs x plain.2.1 (by omega) (by omega) next
    have member := readMember_write hs key plain.2.1 (by omega) value
    have rest : GivesIf _ _ (readMembers d (k + 1) depth (skipBlank (writeMembers s (level + 1) ms ++
        (lineBreak s level ++ '\x7d' :: r)))) :=
      readMembers_write hs ms plain.2.2 (by omega) (by omega)
    -- The reader drops all but the last member of a name, which is nothing here.
    have distinct : Members.ofList ((key, x) :: ms) = (key, x) :: ms :=
      Members.ofList_of_nodup plain.1
    rw [readValue_object_cons (by rw [skipBlank_lineBreak, skipBlank_writeText])
      (by simp [writeText])]
    have whole := member.bind (f := fun p => (readMembers d (k + 1) depth (skipBlank p.2)).map fun q =>
      (Data.object (Members.ofList (p.1 ++ q.1)), q.2)) (rest.map _)
    simp only [List.cons_append, List.nil_append, distinct] at whole
    exact whole.congr ⟨fun both => ⟨plain.1, both⟩, And.right⟩

theorem readItems_write (hs : s.Standard) :
    ∀ (xs : List Data) {level outer n depth : Nat} {r : List Char}, Data.ArePlain none xs →
      Data.depthOfItems xs ≤ depth → (writeItems s level xs).length < n →
        GivesIf (Data.ArePlain d.counting xs) (xs, r) (readItems d n depth
          (skipBlank (writeItems s level xs ++ (lineBreak s outer ++ ']' :: r))))
  | xs, _, _, 0, _, _, _, _, steps => absurd steps (Nat.not_lt_zero _)
  | [], _, _, n + 1, _, _, _, _, _ => by
    rw [writeItems, List.nil_append, skipBlank_lineBreak, skipBlank_cons (by decide)]
    exact .of_eq trivial readItems_nil
  | x :: xs, level, outer, n + 1, depth, r, plain, room, steps => by
    obtain ⟨blanks, comma, blank⟩ := hs.comma
    simp only [Data.depthOfItems] at room
    rw [writeItems_cons, comma] at steps ⊢
    simp only [List.length_cons, List.length_append] at steps
    simp only [List.cons_append, List.append_assoc]
    have next : Ends (writeItems s level xs ++ (lineBreak s outer ++ ']' :: r)) :=
      ends_writeItems hs xs (ends_lineBreak (by decide) (by decide))
    have value : GivesIf _ _ (readValue d n depth (write s level x ++ _)) :=
      readValue_write hs x plain.1 (by omega) (by omega) next
    have rest : GivesIf _ _ (readItems d n depth (skipBlank (writeItems s level xs ++
        (lineBreak s outer ++ ']' :: r)))) :=
      readItems_write hs xs plain.2 (by omega) (by omega)
    rw [skipBlank_cons (by decide), readItems_cons, skipBlank_append blank, skipBlank_lineBreak,
      skipBlank_write plain.1]
    exact value.bind (rest.map _)

theorem readMembers_write (hs : s.Standard) :
    ∀ (ms : List (String × Data)) {level outer n depth : Nat} {r : List Char},
      Members.ArePlain none ms → Data.depthOfMembers ms ≤ depth →
        (writeMembers s level ms).length < n →
          GivesIf (Members.ArePlain d.counting ms) (ms, r) (readMembers d n depth
            (skipBlank (writeMembers s level ms ++ (lineBreak s outer ++ '\x7d' :: r))))
  | ms, _, _, 0, _, _, _, _, steps => absurd steps (Nat.not_lt_zero _)
  | [], _, _, n + 1, _, _, _, _, _ => by
    rw [writeMembers, List.nil_append, skipBlank_lineBreak, skipBlank_cons (by decide)]
    exact .of_eq trivial readMembers_nil
  | (key, x) :: ms, level, outer, n + 1, depth, r, plain, room, steps => by
    obtain ⟨blanks, comma, blank⟩ := hs.comma
    have shorter := length_writeText s.ascii key.toList
    simp only [Data.depthOfMembers] at room
    rw [writeMembers_cons, comma] at steps ⊢
    simp only [List.length_cons, List.length_append] at steps
    simp only [List.cons_append, List.append_assoc]
    obtain ⟨k, rfl⟩ : ∃ k, n = k + 1 := ⟨n - 1, by omega⟩
    have next : Ends (writeMembers s level ms ++ (lineBreak s outer ++ '\x7d' :: r)) :=
      ends_writeMembers hs ms (ends_lineBreak (by decide) (by decide))
    have value : GivesIf _ _ (readValue d k depth (write s level x ++ _)) :=
      readValue_write hs x plain.1 (by omega) (by omega) next
    have member := readMember_write hs key plain.1 (by omega) value
    have rest : GivesIf _ _ (readMembers d (k + 1) depth (skipBlank (writeMembers s level ms ++
        (lineBreak s outer ++ '\x7d' :: r)))) :=
      readMembers_write hs ms plain.2 (by omega) (by omega)
    rw [skipBlank_cons (by decide), readMembers_cons, skipBlank_append blank, skipBlank_lineBreak,
      skipBlank_writeText]
    exact member.bind (rest.map _)

end

end Written

variable {s : Style} {d : Dialect} {x : Data}

/-- Data that is plain but for its numbers is read back, with blanks behind it or without, if and only
if no number in it has too many digits. -/
theorem givesIf_ofText_append (hs : s.Standard) (plain : x.IsPlain none) (room : x.depth ≤ d.depth)
    {blanks : String} (blank : blanks.toList.all isBlank) :
    GivesIf (x.IsPlain d.counting) x (ofText d (toText s x ++ blanks)) := by
  have ends : Ends blanks.toList := by
    intro c hc
    have isBlank : isBlank c = true := List.all_eq_true.mp blank c (List.mem_of_mem_head? hc)
    simp only [Json.isBlank, Bool.or_eq_true, beq_iff_eq] at isBlank
    rcases isBlank with ((rfl | rfl) | rfl) | rfl <;> decide
  have long : (write s 0 x).length < (write s 0 x ++ blanks.toList).length + 1 := by
    rw [List.length_append]
    omega
  have value : GivesIf (x.IsPlain d.counting) (x, blanks.toList)
      (readValue d ((write s 0 x ++ blanks.toList).length + 1) d.depth
        (write s 0 x ++ blanks.toList)) := readValue_write hs x plain room long ends
  have start : skipBlank (write s 0 x ++ blanks.toList) = write s 0 x ++ blanks.toList :=
    skipBlank_write plain
  have rest : skipBlank blanks.toList = [] := by
    rw [← List.append_nil blanks.toList, skipBlank_append blank]
    rfl
  rw [ofText, toText, String.toList_append, String.toList_ofList, ofChars, start]
  refine (value.bind (q := True) ?_).congr (and_iff_left trivial)
  exact .of_eq trivial (if_pos rest)

theorem ofText_toText_append (hs : s.Standard) (plain : x.IsPlain d.counting)
    (room : x.depth ≤ d.depth) {blanks : String} (blank : blanks.toList.all isBlank) :
    ofText d (toText s x ++ blanks) = .ok x :=
  (givesIf_ofText_append hs plain.of_counted room blank).1 plain

/-- Whatever style it is written in, such data is read back just if its numbers are short enough. -/
theorem givesIf_ofText (hs : s.Standard) (plain : x.IsPlain none) (room : x.depth ≤ d.depth) :
    GivesIf (x.IsPlain d.counting) x (ofText d (toText s x)) := by
  have none : ("" : String).toList.all isBlank := rfl
  have read := givesIf_ofText_append hs plain room none
  rwa [String.append_empty] at read

end GridRobot.Json
