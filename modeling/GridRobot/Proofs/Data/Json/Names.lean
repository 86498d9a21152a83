import GridRobot.Data.Json.Reader
import GridRobot.Proofs.Data.Members
import GridRobot.Proofs.Result

/-! An object that is read from a text has every name once, however often the text has it. -/
namespace GridRobot.Json

variable {d : Dialect} {n depth : Nat} {cs r : List Char} {ms : Members} {negative : Bool}

lemma readUnsigned_ne_object : readUnsigned d negative cs ≠ some (.object ms, r) := by
  intro read
  unfold readUnsigned at read
  split at read
  · cases read
  · simp only [Option.ite_none_left_eq_some] at read
    obtain ⟨-, read⟩ := read
    obtain ⟨fraction, -, read⟩ := Option.bind_eq_some_iff.mp read
    obtain ⟨exponent, -, read⟩ := Option.bind_eq_some_iff.mp read
    split at read
    · split at read <;> simp at read
    · split at read <;> simp at read

lemma readNumber_ne_object : readNumber d cs ≠ some (.object ms, r) := by
  intro read
  unfold readNumber at read
  split at read
  · cases read
  · exact readUnsigned_ne_object read
  · exact readUnsigned_ne_object read

lemma text?_ne_object {codes : List Nat} : orMalformed (d.text? codes) ≠ .ok (.object ms) := by
  unfold Dialect.text?
  split
  · nofun
  · split <;> nofun

/-- Of the members with one name only the last is kept. -/
theorem nodup_of_readValue (read : readValue d n depth cs = .ok (.object ms, r)) :
    (ms.map Prod.fst).Nodup := by
  cases n with
  | zero => simp [readValue] at read
  | succ n =>
    rw [readValue.eq_def] at read
    simp only at read
    -- by the first character: words, a text, a list, an object, and last a number
    split at read
    · cases read
    · cases read
    · cases read
    · obtain ⟨t, -, later⟩ := bind_eq_ok_iff.mp read
      obtain ⟨x, text, same⟩ := bind_eq_ok_iff.mp later
      cases same
      exact absurd text text?_ne_object
    · split at read
      · split at read <;> cases read
      · cases read
      · obtain ⟨x, -, read⟩ := bind_eq_ok_iff.mp read
        obtain ⟨xs, -, same⟩ := bind_eq_ok_iff.mp read
        cases same
    · split at read
      · split at read
        · cases read
        · cases read
          exact List.nodup_nil
      · cases read
      · obtain ⟨m, -, read⟩ := bind_eq_ok_iff.mp read
        obtain ⟨ms, -, same⟩ := bind_eq_ok_iff.mp read
        cases same
        exact Members.nodup_ofList _
    · cases number : readNumber d cs with
      | none => rw [number] at read; cases read
      | some x =>
        rw [number] at read
        cases read
        exact absurd number readNumber_ne_object

theorem nodup_of_ofText {s : String} (read : ofText d s = .ok (.object ms)) :
    (ms.map Prod.fst).Nodup := by
  obtain ⟨⟨x, rest⟩, value, last⟩ := bind_eq_ok_iff.mp read
  simp only at last
  split at last
  · cases last
    exact nodup_of_readValue value
  · cases last

end GridRobot.Json
