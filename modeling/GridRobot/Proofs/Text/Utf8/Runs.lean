import GridRobot.Proofs.Text.Utf8

/-! Decoding keeps what is ASCII and leaves it in its place: a run of other bytes is decoded as if there
were nothing around it, to characters that are not ASCII. -/
namespace GridRobot.Utf8

/-- What is ASCII among some code points. -/
def ascii (codes : List Nat) : List Nat := codes.filter (· < 0x80)

/-- A run of bytes beyond ASCII, with ASCII or nothing on either side of it. -/
structure IsRun (before run after : List UInt8) : Prop where
  nonempty : run ≠ []
  beyond : ∀ b ∈ run, 0x80 ≤ b.toNat
  left : ∀ b ∈ before.getLast?, b.toNat < 0x80
  right : ∀ b ∈ after.head?, b.toNat < 0x80

variable {b : UInt8} {s : State} {before run after : List UInt8}

lemma ascii_append (codes more : List Nat) : ascii (codes ++ more) = ascii codes ++ ascii more :=
  List.filter_append codes more

lemma ascii_of_beyond {cs : List Char} (beyond : ∀ c ∈ cs, 0x80 ≤ c.toNat) :
    ascii (cs.map Char.toNat) = [] := by
  simp only [ascii, List.filter_eq_nil_iff, List.forall_mem_map, decide_eq_true_eq, Nat.not_lt]
  exact beyond

lemma sound_step (sound : s.Sound) (b : UInt8) : (step s b).2.Sound := by
  rcases Nat.lt_or_ge b.toNat 0x80 with small | beyond
  · rw [step_of_ascii sound small]
    exact .ready
  · exact (step_of_beyond sound beyond).1

/-- The one ASCII character that a byte can complete is itself. -/
lemma ascii_step (sound : s.Sound) (b : UInt8) :
    ascii ((step s b).1.map Char.toNat) = ascii [b.toNat] := by
  rcases Nat.lt_or_ge b.toNat 0x80 with small | beyond
  · have replaced : ascii ((if s = .ready then [] else [replacement]).map Char.toNat) = [] := by
      apply ascii_of_beyond
      split <;> simp [replacement_beyond]
    rw [step_of_ascii sound small, List.map_append, ascii_append, replaced, List.nil_append,
      List.map_singleton, toNat_ofNat_of_ascii small]
  · rw [ascii_of_beyond (step_of_beyond sound beyond).2.1]
    simp [ascii, beyond]

theorem ascii_decodeFrom (sound : s.Sound) (bytes : List UInt8) :
    ascii ((decodeFrom s bytes).map Char.toNat) = ascii (bytes.map UInt8.toNat) := by
  induction bytes generalizing s with
  | nil =>
    cases sound with
    | ready => rfl
    | pending => exact ascii_of_beyond (by simp [decodeFrom, replacement_beyond])
  | cons b bytes ih =>
    simp only [decodeFrom, List.map_append, ascii_append, ascii_step sound b,
      ih (sound_step sound b)]
    exact (ascii_append [b.toNat] _).symm

lemma decode_cons_of_ascii (small : b.toNat < 0x80) (after : List UInt8) :
    decode (b :: after) = Char.ofNat b.toNat :: decode after := by
  simp [decode, decodeFrom, step_of_ascii .ready small]

/-- Whatever is incomplete in front of an ASCII byte is replaced before it. -/
lemma decodeFrom_append_of_ascii (sound : s.Sound) (small : b.toNat < 0x80) :
    decodeFrom s (before ++ b :: after) = decodeFrom s before ++ decode (b :: after) := by
  induction before generalizing s with
  | nil =>
    rw [decode_cons_of_ascii small]
    cases sound with
    | ready => exact decode_cons_of_ascii small after
    | pending some_owed continuation scalar =>
      have incomplete := State.Sound.pending some_owed continuation scalar
      simp [decodeFrom, step_of_ascii incomplete small, decode]
  | cons d before ih =>
    simp only [List.cons_append, decodeFrom, ih (sound_step sound d), List.append_assoc]

/-- Bytes are decoded part by part where ASCII, or nothing, stands on one side of the cut. -/
theorem decode_append
    (apart : (∀ b ∈ before.getLast?, b.toNat < 0x80) ∨ ∀ b ∈ after.head?, b.toNat < 0x80) :
    decode (before ++ after) = decode before ++ decode after := by
  rcases apart with last | first
  · rcases List.eq_nil_or_concat before with rfl | ⟨body, b, rfl⟩
    · rfl
    · have small : b.toNat < 0x80 := last b (by simp)
      have cut (r : List UInt8) :
          decode (body ++ b :: r) = decode body ++ Char.ofNat b.toNat :: decode r := by
        rw [← decode_cons_of_ascii small r]
        exact decodeFrom_append_of_ascii .ready small
      rw [List.concat_eq_append, List.append_assoc, List.singleton_append, cut after, cut []]
      simp [decode, decodeFrom]
  · cases after with
    | nil => simp [decode, decodeFrom]
    | cons b after => exact decodeFrom_append_of_ascii .ready (first b rfl)

theorem decode_run (h : IsRun before run after) :
    decode (before ++ run ++ after) = decode before ++ decode run ++ decode after := by
  rw [decode_append (.inr h.right), decode_append (.inl h.left)]

/-- Bytes beyond ASCII never give ASCII, and they give something unless there are none. -/
theorem beyond_decodeFrom (sound : s.Sound) (beyond : ∀ b ∈ run, 0x80 ≤ b.toNat) :
    (∀ c ∈ decodeFrom s run, 0x80 ≤ c.toNat) ∧
      (s ≠ .ready ∨ run ≠ [] → decodeFrom s run ≠ []) := by
  induction run generalizing s with
  | nil =>
    cases sound with
    | ready => simp [decodeFrom]
    | pending => simp [decodeFrom, replacement_beyond]
  | cons b run ih =>
    obtain ⟨next, here, progress⟩ := step_of_beyond sound (beyond b List.mem_cons_self)
    obtain ⟨later, more⟩ := ih next fun d hd => beyond d (List.mem_cons_of_mem b hd)
    refine ⟨fun c hc => ?_, fun _ empty => ?_⟩
    · exact (List.mem_append.mp hc).elim (here c) (later c)
    · -- A byte that gives nothing leaves something owed, which is replaced if nothing completes it.
      obtain ⟨none, rest⟩ := List.append_eq_nil_iff.mp empty
      exact more (.inl (progress none)) rest

end GridRobot.Utf8
