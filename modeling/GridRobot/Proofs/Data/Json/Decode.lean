import GridRobot.Proofs.Data.Json.RoundTrip
import Mathlib.Tactic.Lemma

/-! JSON without bounds, where nothing is too long or nested too deeply to be read. -/
namespace GridRobot.Json

/-- The data of a text by the grammar alone. -/
def decode? (t : String) : Option Data := (ofText ⟨t.length, false, none, false, false⟩ t).toOption

variable {s : Style} {counting : Option Decimal.Counting}

mutual

/-- Every container takes two characters of its own. -/
theorem depth_le_length_write :
    ∀ (x : Data) (level : Nat), x.IsPlain counting → x.depth ≤ (write s level x).length
  | .null, _, _ => by rw [write]; decide
  | .bool true, _, _ => by rw [write]; decide
  | .bool false, _, _ => by rw [write]; decide
  | .int i, level, plain => by
    obtain ⟨c, t, first, -⟩ := head_write s level plain
    simp [first, Data.depth]
  | .float _, _, plain => plain.elim
  | .text t, level, plain => by
    obtain ⟨c, t, first, -⟩ := head_write s level plain
    simp [first, Data.depth]
  | .unpaired _, _, plain | .moment _, _, plain => plain.elim
  | .list [], _, _ => by rw [write]; decide
  | .list (x :: xs), level, plain => by
    have first := depth_le_length_write x (level + 1) plain.1
    have others := depthOfItems_le_length_writeItems xs (level + 1) plain.2
    simp only [Data.depth, Data.depthOfItems, write_list_cons, List.length_cons,
      List.length_append]
    omega
  | .object [], _, _ => by rw [write]; decide
  | .object ((k, x) :: ms), level, plain => by
    have first := depth_le_length_write x (level + 1) plain.2.1
    have others := depthOfMembers_le_length_writeMembers ms (level + 1) plain.2.2
    simp only [Data.depth, Data.depthOfMembers, write_object_cons, List.length_cons,
      List.length_append]
    omega

theorem depthOfItems_le_length_writeItems :
    ∀ (xs : List Data) (level : Nat), Data.ArePlain counting xs →
      Data.depthOfItems xs ≤ (writeItems s level xs).length
  | [], _, _ => Nat.zero_le _
  | x :: xs, level, plain => by
    have first := depth_le_length_write x level plain.1
    have others := depthOfItems_le_length_writeItems xs level plain.2
    simp only [Data.depthOfItems, writeItems_cons, List.length_append]
    omega

theorem depthOfMembers_le_length_writeMembers :
    ∀ (ms : List (String × Data)) (level : Nat), Members.ArePlain counting ms →
      Data.depthOfMembers ms ≤ (writeMembers s level ms).length
  | [], _, _ => Nat.zero_le _
  | (k, x) :: ms, level, plain => by
    have first := depth_le_length_write x level plain.1
    have others := depthOfMembers_le_length_writeMembers ms level plain.2
    simp only [Data.depthOfMembers, writeMembers_cons, List.length_append]
    omega

end

/-- What was written without floats, dates and repeated names is decoded to what it was, with blanks
behind it or without. -/
theorem decode?_toText_append (hs : s.Standard) {x : Data} (plain : x.IsPlain none) {blanks : String}
    (blank : blanks.toList.all isBlank) : decode? (toText s x ++ blanks) = some x := by
  have room : x.depth ≤ (toText s x ++ blanks).length := by
    rw [String.length_append, toText, String.length_ofList]
    exact Nat.le_add_right_of_le (depth_le_length_write x 0 plain)
  have read : ofText ⟨(toText s x ++ blanks).length, false, none, false, false⟩
      (toText s x ++ blanks) = .ok x := ofText_toText_append hs plain room blank
  rw [decode?, read]
  rfl

theorem decode?_toText (hs : s.Standard) {x : Data} (plain : x.IsPlain none) :
    decode? (toText s x) = some x := by
  have none : ("" : String).toList.all isBlank := rfl
  have read := decode?_toText_append hs plain none
  rwa [String.append_empty] at read

end GridRobot.Json
