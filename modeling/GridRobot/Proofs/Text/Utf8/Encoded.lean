import GridRobot.Proofs.Result
import GridRobot.Proofs.Text.Utf8

/-! Encoded text: decoding undoes encoding, and nothing is well-formed but what was encoded. -/
namespace GridRobot.Utf8

/-- The last bytes of a code point, with six of its bits in each. -/
def continuation : Nat → Nat → List UInt8
  | 0, _ => []
  | k + 1, n => UInt8.ofNat (n / 64 ^ k % 64 + 0x80) :: continuation k n

/-- What a first byte has beside the bits of its code point, by the number of bytes after it. -/
def mark : Nat → Nat
  | 1 => 0xc0
  | 2 => 0xe0
  | _ => 0xf0

def first (k n : Nat) : UInt8 := UInt8.ofNat (n / 64 ^ k + mark k)

/-- A code point beyond ASCII that takes so many bytes after its first one. -/
def Owes (k n : Nat) : Prop :=
  k = 1 ∧ 0x80 ≤ n ∧ n < 0x800 ∨
  k = 2 ∧ (0x800 ≤ n ∧ n < 0xd800 ∨ 0xe000 ≤ n ∧ n < 0x10000) ∨
  k = 3 ∧ 0x10000 ≤ n ∧ n < 0x110000

/-- What is owed can complete a code point. -/
def Fits (owed low high value n : Nat) : Prop :=
  n / 64 ^ owed = value ∧ low ≤ n / 64 ^ (owed - 1) % 64 + 0x80 ∧
    n / 64 ^ (owed - 1) % 64 + 0x80 ≤ high

/-- Well-formed bytes, read from a state, and the characters that they complete. -/
inductive State.Reads : State → List UInt8 → List Char → Prop
  | done : Reads .ready [] []
  | ascii {b : UInt8} {r : List UInt8} {cs : List Char} (meaning : lead b = .ascii)
      (rest : Reads .ready r cs) : Reads .ready (b :: r) (Char.ofNat b.toNat :: cs)
  | first {b : UInt8} {r : List UInt8} {cs : List Char} {owed low high value : Nat}
      (meaning : lead b = .first owed low high value)
      (rest : Reads (.pending owed low high value) r cs) : Reads .ready (b :: r) cs
  | last {b : UInt8} {r : List UInt8} {cs : List Char} {low high value : Nat}
      (inside : low ≤ b.toNat ∧ b.toNat ≤ high) (rest : Reads .ready r cs) :
      Reads (.pending 1 low high value) (b :: r) (Char.ofNat (extended value b) :: cs)
  | next {b : UInt8} {r : List UInt8} {cs : List Char} {owed low high value : Nat}
      (more : owed ≠ 1) (inside : low ≤ b.toNat ∧ b.toNat ≤ high)
      (rest : Reads (.pending (owed - 1) 0x80 0xbf (extended value b)) r cs) :
      Reads (.pending owed low high value) (b :: r) cs

variable {b : UInt8} {s : State} {k n : Nat} {c : Char} {cs : List Char} {r : List UInt8}

lemma Owes.scalar (h : Owes k n) : n < 0xd800 ∨ 0xe000 ≤ n ∧ n < 0x110000 := by
  unfold Owes at h
  omega

lemma ascii_or_owes (c : Char) : c.toNat < 0x80 ∨ ∃ k, Owes k c.toNat := by
  have valid : c.toNat < 0xd800 ∨ 0xdfff < c.toNat ∧ c.toNat < 0x110000 := c.valid
  by_cases one : c.toNat < 0x800
  · by_cases ascii : c.toNat < 0x80
    · exact .inl ascii
    · exact .inr ⟨1, .inl ⟨rfl, by omega, one⟩⟩
  · by_cases two : c.toNat < 0x10000
    · exact .inr ⟨2, .inr (.inl ⟨rfl, by omega⟩)⟩
    · exact .inr ⟨3, .inr (.inr ⟨rfl, by omega⟩)⟩

lemma utf8EncodeChar_of_ascii (h : c.toNat < 0x80) :
    String.utf8EncodeChar c = [UInt8.ofNat c.toNat] :=
  if_pos (Nat.le_of_lt_succ h)

lemma utf8EncodeChar_of_owes (h : Owes k c.toNat) :
    String.utf8EncodeChar c = first k c.toNat :: continuation k c.toNat := by
  rw [String.utf8EncodeChar, Char.toNat_val]
  rcases h with ⟨rfl, low, high⟩ | ⟨rfl, range⟩ | ⟨rfl, low, high⟩
  · have bits : c.toNat / 64 % 32 = c.toNat / 64 := by omega
    rw [if_neg (by omega), if_pos (by omega), bits]
    simp [first, mark, continuation]
  · have bits : c.toNat / 4096 % 16 = c.toNat / 4096 := by omega
    rw [if_neg (by omega), if_neg (by omega), if_pos (by omega), bits]
    simp [first, mark, continuation]
  · have bits : c.toNat / 262144 % 8 = c.toNat / 262144 := by omega
    rw [if_neg (by omega), if_neg (by omega), if_neg (by omega), bits]
    simp [first, mark, continuation]

lemma toNat_first (h : Owes k n) : (first k n).toNat = n / 64 ^ k + mark k := by
  have small : n / 64 ^ k + mark k < 256 := by
    rcases h with ⟨rfl, low, high⟩ | ⟨rfl, range⟩ | ⟨rfl, low, high⟩ <;> simp only [mark] <;> omega
  rw [first, UInt8.toNat_ofNat', Nat.mod_eq_of_lt small]

lemma beyond_first (h : Owes k n) : 0x80 ≤ (first k n).toNat := by
  rw [toNat_first h]
  rcases h with ⟨rfl, range⟩ | ⟨rfl, range⟩ | ⟨rfl, range⟩ <;> simp only [mark] <;> omega

/-- What a first byte leaves owed, by the value that it carries. -/
inductive Opens (n value : Nat) : Nat → Nat → Nat → Prop
  | one (byte : n = value + 0xc0) (range : 2 ≤ value ∧ value < 0x20) : Opens n value 1 0x80 0xbf
  | twoLeast (byte : n = value + 0xe0) (least : value = 0) : Opens n value 2 0xa0 0xbf
  | twoBelowSurrogates (byte : n = value + 0xe0) (last : value = 0xd) : Opens n value 2 0x80 0x9f
  | two (byte : n = value + 0xe0) (range : 0 < value ∧ value < 0x10) (apart : value ≠ 0xd) :
      Opens n value 2 0x80 0xbf
  | threeLeast (byte : n = value + 0xf0) (least : value = 0) : Opens n value 3 0x90 0xbf
  | three (byte : n = value + 0xf0) (range : 0 < value ∧ value < 4) : Opens n value 3 0x80 0xbf
  | threeGreatest (byte : n = value + 0xf0) (greatest : value = 4) : Opens n value 3 0x80 0x8f

lemma lead_of_opens {low high value : Nat} (h : Opens b.toNat value k low high) :
    lead b = .first k low high value := by
  unfold lead
  cases h with
  | one byte range =>
    rw [if_neg (by omega), if_neg (by omega), if_pos (by omega), byte, Nat.add_sub_cancel]
  | twoLeast byte least =>
    rw [if_neg (by omega), if_neg (by omega), if_neg (by omega), if_pos (by omega), least]
  | twoBelowSurrogates byte last =>
    rw [if_neg (by omega), if_neg (by omega), if_neg (by omega), if_neg (by omega),
      if_pos (by omega), last]
  | two byte range apart =>
    rw [if_neg (by omega), if_neg (by omega), if_neg (by omega), if_neg (by omega),
      if_neg (by omega), if_pos (by omega), byte, Nat.add_sub_cancel]
  | threeLeast byte least =>
    rw [if_neg (by omega), if_neg (by omega), if_neg (by omega), if_neg (by omega),
      if_neg (by omega), if_neg (by omega), if_pos (by omega), least]
  | three byte range =>
    rw [if_neg (by omega), if_neg (by omega), if_neg (by omega), if_neg (by omega),
      if_neg (by omega), if_neg (by omega), if_neg (by omega), if_pos (by omega), byte,
      Nat.add_sub_cancel]
  | threeGreatest byte greatest =>
    rw [if_neg (by omega), if_neg (by omega), if_neg (by omega), if_neg (by omega),
      if_neg (by omega), if_neg (by omega), if_neg (by omega), if_neg (by omega),
      if_pos (by omega), greatest]

lemma opens_of_lead {low high value : Nat} (h : lead b = .first k low high value) :
    Opens b.toNat value k low high := by
  unfold lead at h
  simp only at h
  repeat' split at h
  all_goals cases h
  · exact .one (by omega) (by omega)
  · exact .twoLeast (by omega) rfl
  · exact .twoBelowSurrogates (by omega) rfl
  · exact .two (by omega) (by omega) (by omega)
  · exact .threeLeast (by omega) rfl
  · exact .three (by omega) (by omega)
  · exact .threeGreatest (by omega) rfl

/-- The first byte of a code point tells how many follow, and which they can be. -/
lemma exists_opens (h : Owes k n) :
    ∃ low high value, Opens (n / 64 ^ k + mark k) value k low high ∧ Fits k low high value n := by
  have fits {owed low high : Nat} (least : low ≤ n / 64 ^ (owed - 1) % 64 + 0x80)
      (most : n / 64 ^ (owed - 1) % 64 + 0x80 ≤ high) : Fits owed low high (n / 64 ^ owed) n :=
    ⟨rfl, least, most⟩
  rcases h with ⟨rfl, range⟩ | ⟨rfl, range⟩ | ⟨rfl, range⟩
  · exact ⟨_, _, _, .one rfl (by omega), fits (by omega) (by omega)⟩
  · by_cases least : n < 0x1000
    · exact ⟨_, _, _, .twoLeast rfl (by omega), fits (by omega) (by omega)⟩
    · by_cases last : 0xd000 ≤ n ∧ n < 0xd800
      · exact ⟨_, _, _, .twoBelowSurrogates rfl (by omega), fits (by omega) (by omega)⟩
      · exact ⟨_, _, _, .two rfl (by omega) (by omega), fits (by omega) (by omega)⟩
  · by_cases least : n < 0x40000
    · exact ⟨_, _, _, .threeLeast rfl (by omega), fits (by omega) (by omega)⟩
    · by_cases greatest : n < 0x100000
      · exact ⟨_, _, _, .three rfl (by omega), fits (by omega) (by omega)⟩
      · exact ⟨_, _, _, .threeGreatest rfl (by omega), fits (by omega) (by omega)⟩

lemma exists_lead (h : Owes k n) :
    ∃ low high value, lead (first k n) = .first k low high value ∧ Fits k low high value n := by
  obtain ⟨low, high, value, opens, fits⟩ := exists_opens h
  rw [← toNat_first h] at opens
  exact ⟨low, high, value, lead_of_opens opens, fits⟩

/-- A code point that completes what a first byte leaves owed has that byte as its first one. -/
lemma owes_of_lead {low high value : Nat} (meaning : lead b = .first k low high value)
    (fits : Fits k low high value n) : Owes k n ∧ b = first k n := by
  obtain ⟨whole, least, most⟩ := fits
  have same : Owes k n ∧ b.toNat = n / 64 ^ k + mark k := by
    cases opens_of_lead meaning
    all_goals
      simp only [Nat.reduceSub, Nat.reducePow, Nat.div_one] at whole least most
      simp only [mark, Owes, Nat.reducePow, Nat.reduceEqDiff, true_and, false_and, or_false, false_or]
      omega
  refine ⟨same.1, UInt8.toNat_inj.mp ?_⟩
  rw [toNat_first same.1, same.2]

theorem decodeFrom_of_reads (h : s.Reads r cs) : decodeFrom s r = cs := by
  induction h with
  | done => rfl
  | ascii meaning rest ih => simp [decodeFrom, step, start, meaning, ih]
  | first meaning rest ih => simp [decodeFrom, step, start, meaning, ih]
  | last inside rest ih => simp [decodeFrom, step, inside, ih]
  | next more inside rest ih => simp [decodeFrom, step, more, inside, ih]

theorem checkedFrom_eq_ok_iff {f : UInt8} {begun position : Nat} :
    checkedFrom s f begun position r = .ok cs ↔ s.Reads r cs := by
  constructor
  · intro read
    induction r generalizing s f begun position cs with
    | nil =>
      cases s with
      | ready =>
        obtain rfl : [] = cs := Except.ok.inj read
        exact .done
      | pending => cases read
    | cons b r ih =>
      cases s with
      | ready =>
        rw [checkedFrom] at read
        cases meaning : lead b with
        | ascii =>
          simp only [meaning] at read
          obtain ⟨ds, later, rfl⟩ := map_eq_ok_iff.mp read
          exact .ascii meaning (ih later)
        | first owed low high value =>
          simp only [meaning] at read
          exact .first meaning (ih read)
        | invalid =>
          simp only [meaning] at read
          cases read
      | pending owed low high value =>
        rw [checkedFrom] at read
        by_cases inside : low ≤ b.toNat ∧ b.toNat ≤ high
        · by_cases last : owed = 1
          · subst last
            rw [if_pos inside, if_pos rfl] at read
            obtain ⟨ds, later, rfl⟩ := map_eq_ok_iff.mp read
            exact .last inside (ih later)
          · rw [if_pos inside, if_neg last] at read
            exact .next last inside (ih read)
        · rw [if_neg inside] at read
          cases read
  · intro h
    induction h generalizing f begun position with
    | done => rfl
    | ascii meaning rest ih => simp [checkedFrom, meaning, ih, Except.map]
    | first meaning rest ih => simp [checkedFrom, meaning, ih]
    | last inside rest ih => simp [checkedFrom, inside, ih, Except.map]
    | next more inside rest ih => simp [checkedFrom, more, inside, ih]

section Owed

variable {owed low high value : Nat}

/-- The byte that is owed next to complete a code point. -/
lemma toNat_next : (UInt8.ofNat (n / 64 ^ k % 64 + 0x80)).toNat = n / 64 ^ k % 64 + 0x80 := by
  rw [UInt8.toNat_ofNat']
  omega

lemma inside_next (fits : Fits (k + 1) low high value n) :
    low ≤ (UInt8.ofNat (n / 64 ^ k % 64 + 0x80)).toNat ∧
      (UInt8.ofNat (n / 64 ^ k % 64 + 0x80)).toNat ≤ high := by
  rw [toNat_next]
  exact fits.2

lemma extended_next (fits : Fits (k + 1) low high value n) :
    extended value (UInt8.ofNat (n / 64 ^ k % 64 + 0x80)) = n / 64 ^ k := by
  have above : n / 64 ^ k / 64 = value := by
    rw [Nat.div_div_eq_div_mul, ← Nat.pow_succ]
    exact fits.1
  rw [extended, toNat_next]
  omega

lemma fits_extended (k : Nat) : Fits (k + 1) 0x80 0xbf (n / 64 ^ (k + 1)) n := by
  refine ⟨rfl, ?_, ?_⟩ <;> omega

/-- What is owed to a code point completes it. -/
lemma reads_continuation (fits : Fits (k + 1) low high value n) (rest : State.ready.Reads r cs) :
    (State.pending (k + 1) low high value).Reads (continuation (k + 1) n ++ r)
      (Char.ofNat n :: cs) := by
  induction k generalizing low high value with
  | zero =>
    have whole : extended value (UInt8.ofNat (n / 64 ^ 0 % 64 + 0x80)) = n := by
      rw [extended_next fits, Nat.pow_zero, Nat.div_one]
    have read : (State.pending 1 low high value).Reads _ _ := .last (inside_next fits) rest
    rw [whole] at read
    exact read
  | succ k ih =>
    refine .next (by omega) (inside_next fits) ?_
    rw [extended_next fits]
    exact ih (fits_extended k)

/-- A byte that is read is the one that was owed to what it leads to. -/
lemma fits_of_extended (range : 0x80 ≤ low ∧ high ≤ 0xbf)
    (inside : low ≤ b.toNat ∧ b.toNat ≤ high) (below : n / 64 ^ k = extended value b) :
    Fits (k + 1) low high value n ∧ continuation (k + 1) n = b :: continuation k n := by
  have next : n / 64 ^ k % 64 + 0x80 = b.toNat := by
    rw [below, extended]
    omega
  refine ⟨⟨?_, ?_⟩, ?_⟩
  · rw [Nat.pow_succ, ← Nat.div_div_eq_div_mul, below, extended]
    omega
  · rw [Nat.add_sub_cancel, next]
    exact inside
  · rw [continuation, next, UInt8.ofNat_toNat]

end Owed

theorem reads_utf8EncodeChar (c : Char) (rest : State.ready.Reads r cs) :
    State.ready.Reads (String.utf8EncodeChar c ++ r) (c :: cs) := by
  rcases ascii_or_owes c with ascii | ⟨k, owes⟩
  · have small : (UInt8.ofNat c.toNat).toNat = c.toNat := by
      rw [UInt8.toNat_ofNat']
      omega
    have meaning : lead (UInt8.ofNat c.toNat) = .ascii := if_pos (by rwa [small])
    have read := State.Reads.ascii meaning rest
    rw [small, Char.ofNat_toNat] at read
    rw [utf8EncodeChar_of_ascii ascii]
    exact read
  · obtain ⟨low, high, value, meaning, fits⟩ := exists_lead owes
    obtain ⟨k, rfl⟩ : ∃ j, k = j + 1 := ⟨k - 1, by unfold Owes at owes; omega⟩
    have read := reads_continuation fits rest
    rw [Char.ofNat_toNat] at read
    rw [utf8EncodeChar_of_owes owes]
    exact .first meaning read

lemma encode_cons (c : Char) (cs : List Char) :
    encode (c :: cs) = String.utf8EncodeChar c ++ encode cs := List.flatMap_cons

theorem reads_encode (cs : List Char) : State.ready.Reads (encode cs) cs := by
  induction cs with
  | nil => exact .done
  | cons c cs ih =>
    rw [encode_cons]
    exact reads_utf8EncodeChar c ih

theorem decode_encode (cs : List Char) : decode (encode cs) = cs :=
  decodeFrom_of_reads (reads_encode cs)

/-- What is read from a state: encoded text, after the rest of a code point if some of it is owed. -/
def State.Completed : State → List UInt8 → List Char → Prop
  | .ready, r, cs => r = encode cs
  | .pending owed low high value, r, cs => ∃ n ds, Fits owed low high value n ∧
      cs = Char.ofNat n :: ds ∧ r = continuation owed n ++ encode ds

theorem completed_of_reads (h : s.Reads r cs) (sound : s.Sound) : s.Completed r cs := by
  induction h with
  | done => rfl
  | @ascii b r cs meaning rest ih =>
    have small : b.toNat < 0x80 := by
      by_contra beyond
      exact lead_ne_ascii (Nat.le_of_not_lt beyond) meaning
    have same : (Char.ofNat b.toNat).toNat = b.toNat := toNat_ofNat_of_ascii small
    rw [State.Completed, encode_cons, utf8EncodeChar_of_ascii (by omega), same, UInt8.ofNat_toNat,
      ih .ready]
    rfl
  | first meaning rest ih =>
    obtain ⟨n, ds, fits, rfl, rfl⟩ := ih (sound_of_lead meaning)
    obtain ⟨owes, rfl⟩ := owes_of_lead meaning fits
    have same : (Char.ofNat n).toNat = n := toNat_ofNat_of_scalar owes.scalar
    rw [← same] at owes
    rw [State.Completed, encode_cons, utf8EncodeChar_of_owes owes, same, List.cons_append]
  | @last b r cs low high value inside rest ih =>
    cases sound with
    | pending some_owed range scalar =>
      have whole : extended value b / 64 ^ 0 = extended value b := by rw [Nat.pow_zero, Nat.div_one]
      obtain ⟨fits, bytes⟩ := fits_of_extended range inside whole
      refine ⟨extended value b, cs, fits, rfl, ?_⟩
      rw [bytes, ih .ready]
      rfl
  | @next b r cs owed low high value more inside rest ih =>
    obtain ⟨n, ds, below, rfl, rfl⟩ := ih (sound_extended sound more inside)
    cases sound with
    | pending some_owed range scalar =>
      obtain ⟨k, rfl⟩ : ∃ k, owed = k + 1 := ⟨owed - 1, by omega⟩
      obtain ⟨fits, bytes⟩ := fits_of_extended range inside below.1
      exact ⟨n, ds, fits, rfl, (congrArg (· ++ encode ds) bytes).symm⟩

/-- Nothing is well-formed but what was encoded, and it is decoded to what it was. -/
theorem decodeChecked_eq_ok_iff : decodeChecked r = .ok cs ↔ r = encode cs := by
  rw [decodeChecked, checkedFrom_eq_ok_iff]
  exact ⟨fun read => completed_of_reads read .ready, fun same => same ▸ reads_encode cs⟩

lemma encode_append (cs ds : List Char) : encode (cs ++ ds) = encode cs ++ encode ds :=
  List.flatMap_append

lemma beyond_of_mem_continuation (h : b ∈ continuation k n) : 0x80 ≤ b.toNat := by
  induction k with
  | zero => cases h
  | succ k ih =>
    rcases List.mem_cons.mp h with rfl | later
    · rw [toNat_next]
      omega
    · exact ih later

/-- A byte of ASCII belongs to no character but its own. -/
lemma eq_of_ascii_mem (h : b ∈ String.utf8EncodeChar c) (ascii : b.toNat < 0x80) :
    c = Char.ofNat b.toNat := by
  rcases ascii_or_owes c with small | ⟨k, owes⟩
  · rw [utf8EncodeChar_of_ascii small, List.mem_singleton] at h
    have same : b.toNat = c.toNat := by
      rw [h, UInt8.toNat_ofNat']
      omega
    rw [same, Char.ofNat_toNat]
  · rw [utf8EncodeChar_of_owes owes, List.mem_cons] at h
    rcases h with rfl | later
    · exact absurd (beyond_first owes) (Nat.not_le.mpr ascii)
    · exact absurd (beyond_of_mem_continuation later) (Nat.not_le.mpr ascii)

lemma mem_of_mem_encode (h : b ∈ encode cs) (ascii : b.toNat < 0x80) :
    Char.ofNat b.toNat ∈ cs := by
  obtain ⟨c, hc, hb⟩ := List.mem_flatMap.mp h
  exact eq_of_ascii_mem hb ascii ▸ hc

lemma utf8EncodeChar_ne_nil (c : Char) : String.utf8EncodeChar c ≠ [] := by
  rcases ascii_or_owes c with small | ⟨k, owes⟩
  · simp [utf8EncodeChar_of_ascii small]
  · simp [utf8EncodeChar_of_owes owes]

lemma encode_ne_nil (h : cs ≠ []) : encode cs ≠ [] := by
  obtain ⟨c, cs, rfl⟩ := List.exists_cons_of_ne_nil h
  rw [encode_cons]
  exact List.append_ne_nil_of_left_ne_nil (utf8EncodeChar_ne_nil c) _

lemma getLast?_of_encode (h : (encode cs).getLast? = some b) (ascii : b.toNat < 0x80) :
    cs.getLast? = some (Char.ofNat b.toNat) := by
  rcases List.eq_nil_or_concat cs with rfl | ⟨ds, c, rfl⟩
  · cases h
  · have one : encode [c] = String.utf8EncodeChar c := List.append_nil _
    have last : (String.utf8EncodeChar c).getLast? = some _ :=
      List.getLast?_eq_some_getLast (utf8EncodeChar_ne_nil c)
    rw [List.concat_eq_append, encode_append, one, List.getLast?_append, last, Option.some_or,
      ← last] at h
    rw [List.concat_eq_append, List.getLast?_concat,
      eq_of_ascii_mem (List.mem_of_getLast? h) ascii]

end GridRobot.Utf8
