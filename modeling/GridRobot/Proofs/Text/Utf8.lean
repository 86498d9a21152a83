import GridRobot.Text.Utf8
import Mathlib.Algebra.Group.Nat.Defs
import Mathlib.Tactic.ByContra
import Mathlib.Tactic.Lemma

/-! What decoding makes of ASCII and of all other bytes: an ASCII byte is always decoded to itself,
and bytes beyond ASCII are never decoded to an ASCII character. -/
namespace GridRobot.Utf8

/-- The least code point that can still be completed. -/
def least (owed low value : Nat) : Nat := (value * 64 + low % 64) * 64 ^ (owed - 1)

/-- The code points that can still be completed are below this. -/
def bound (owed high value : Nat) : Nat := (value * 64 + high % 64 + 1) * 64 ^ (owed - 1)

/-- Only continuation bytes are owed, and they can complete nothing but characters beyond ASCII. -/
inductive State.Sound : State → Prop
  | ready : Sound .ready
  | pending {owed low high value : Nat} (some_owed : 1 ≤ owed ∧ owed ≤ 3)
      (continuation : 0x80 ≤ low ∧ high ≤ 0xbf)
      (scalar : 0x80 ≤ least owed low value ∧ bound owed high value ≤ 0xd800 ∨
        0xe000 ≤ least owed low value ∧ bound owed high value ≤ 0x110000) :
      Sound (.pending owed low high value)

lemma toNat_ofNat_of_scalar {n : Nat} (h : n < 0xd800 ∨ 0xe000 ≤ n ∧ n < 0x110000) :
    (Char.ofNat n).toNat = n := by
  have valid : n.isValidChar := by
    unfold Nat.isValidChar
    omega
  rw [Char.ofNat, dif_pos valid]
  exact UInt32.toNat_ofNatLT

lemma toNat_ofNat_of_ascii {n : Nat} (h : n < 0x80) : (Char.ofNat n).toNat = n :=
  toNat_ofNat_of_scalar (by omega)

variable {b : UInt8} {s : State}

lemma start_of_ascii (h : b.toNat < 0x80) : start b = ([Char.ofNat b.toNat], .ready) := by
  simp [start, lead, h]

/-- A first byte rules out overlong forms, surrogates and values that are too large. -/
lemma sound_of_lead {owed low high value : Nat} (h : lead b = .first owed low high value) :
    (State.pending owed low high value).Sound := by
  unfold lead at h
  simp only at h
  repeat' split at h
  all_goals cases h
  all_goals exact .pending (by omega) (by omega) (by simp only [least, bound]; omega)

lemma lead_ne_ascii (h : 0x80 ≤ b.toNat) : lead b ≠ .ascii := by
  unfold lead
  simp only
  repeat' split
  all_goals first | omega | exact nofun

/-- What a byte beyond ASCII starts: an incomplete character, or nothing that could be completed. -/
lemma start_of_beyond (h : 0x80 ≤ b.toNat) :
    (start b).2.Sound ∧ ((start b).1 = [] ∧ (start b).2 ≠ .ready ∨ (start b).1 = [replacement]) := by
  unfold start
  cases meaning : lead b with
  | ascii => exact absurd meaning (lead_ne_ascii h)
  | first owed low high value => exact ⟨sound_of_lead meaning, .inl ⟨rfl, nofun⟩⟩
  | invalid => exact ⟨.ready, .inr rfl⟩

lemma replacement_beyond : 0x80 ≤ replacement.toNat := by decide

section Owed

variable {owed low high value : Nat}

/-- A byte in range makes the code points that can be completed fewer, but lets no others in. -/
lemma sound_extended (sound : (State.pending owed low high value).Sound) (more : owed ≠ 1)
    (inside : low ≤ b.toNat ∧ b.toNat ≤ high) :
    (State.pending (owed - 1) 0x80 0xbf (extended value b)).Sound := by
  cases sound with
  | pending some_owed continuation scalar =>
    have two_or_three : owed = 2 ∨ owed = 3 := by omega
    refine .pending (by omega) (by omega) ?_
    rcases two_or_three with rfl | rfl
    · simp only [least, bound, extended] at scalar ⊢
      omega
    · simp only [least, bound, extended] at scalar ⊢
      omega

lemma completed_beyond (sound : (State.pending 1 low high value).Sound)
    (inside : low ≤ b.toNat ∧ b.toNat ≤ high) : 0x80 ≤ (Char.ofNat (extended value b)).toNat := by
  cases sound with
  | pending some_owed continuation scalar =>
    simp only [least, bound] at scalar
    have range : 0x80 ≤ extended value b ∧ (extended value b < 0xd800 ∨
        0xe000 ≤ extended value b ∧ extended value b < 0x110000) := by
      simp only [extended]
      omega
    rw [toNat_ofNat_of_scalar range.2]
    exact range.1

end Owed

/-- An ASCII byte completes nothing, so that it stands for itself behind what is incomplete. -/
theorem step_of_ascii (sound : s.Sound) (h : b.toNat < 0x80) :
    step s b = ((if s = .ready then [] else [replacement]) ++ [Char.ofNat b.toNat], .ready) := by
  cases sound with
  | ready => simp [step, start_of_ascii h]
  | @pending owed low high value some_owed continuation scalar =>
    have outside : ¬ (low ≤ b.toNat ∧ b.toNat ≤ high) := by omega
    simp [step, if_neg outside, start_of_ascii h]

/-- A byte beyond ASCII gives characters beyond ASCII, or it leaves something incomplete. -/
theorem step_of_beyond (sound : s.Sound) (h : 0x80 ≤ b.toNat) :
    (step s b).2.Sound ∧ (∀ c ∈ (step s b).1, 0x80 ≤ c.toNat) ∧
      ((step s b).1 = [] → (step s b).2 ≠ .ready) := by
  obtain ⟨next, fresh⟩ := start_of_beyond h
  cases sound with
  | ready =>
    refine ⟨next, ?_⟩
    rcases fresh with ⟨none, waiting⟩ | one
    · simp [step, none, waiting]
    · simp [step, one, replacement_beyond]
  | @pending owed low high value some_owed continuation scalar =>
    have sound : (State.pending owed low high value).Sound :=
      .pending some_owed continuation scalar
    by_cases inside : low ≤ b.toNat ∧ b.toNat ≤ high
    · by_cases last : owed = 1
      · subst last
        simp [step, inside, completed_beyond sound inside, State.Sound.ready]
      · simp [step, inside, last, sound_extended sound last inside]
    · simp only [step, if_neg inside]
      refine ⟨next, ?_⟩
      rcases fresh with ⟨none, -⟩ | one
      · simp [none, replacement_beyond]
      · simp [one, replacement_beyond]

/-- If nothing but ASCII is decoded then nothing but ASCII was there, and it is decoded byte for
byte. -/
theorem ascii_of_decodeFrom {bytes : List UInt8} (sound : s.Sound)
    (h : ∀ c ∈ decodeFrom s bytes, c.toNat < 0x80) :
    s = .ready ∧ (∀ b ∈ bytes, b.toNat < 0x80) ∧
      decodeFrom s bytes = bytes.map fun b => Char.ofNat b.toNat := by
  induction bytes generalizing s with
  | nil =>
    cases sound with
    | ready => simp [decodeFrom]
    | pending =>
      have ascii := h replacement (by simp [decodeFrom])
      exact absurd replacement_beyond (Nat.not_le.mpr ascii)
  | cons b bytes ih =>
    simp only [decodeFrom, List.mem_append] at h ⊢
    rcases Nat.lt_or_ge b.toNat 0x80 with ascii | beyond
    · rw [step_of_ascii sound ascii] at h ⊢
      obtain ⟨-, rest, same⟩ := ih .ready fun c hc => h c (.inr hc)
      have begun : s = .ready := by
        by_contra waiting
        have ascii := h replacement (.inl (by simp [waiting]))
        exact absurd replacement_beyond (Nat.not_le.mpr ascii)
      simpa [begun, same, ascii] using rest
    · obtain ⟨next, outside, progress⟩ := step_of_beyond sound beyond
      have none : (step s b).1 = [] := by
        refine List.eq_nil_iff_forall_not_mem.mpr fun c hc => ?_
        exact absurd (outside c hc) (Nat.not_le.mpr (h c (.inl hc)))
      obtain ⟨finished, -⟩ := ih next fun c hc => h c (.inr hc)
      exact absurd finished (progress none)

end GridRobot.Utf8
