/-! Removing terminal control sequences from text. -/
namespace GridRobot.Escape

def escape : Char := Char.ofNat 0x1b

def isBetween (low high : Char) (c : Char) : Bool := low ≤ c && c ≤ high

/-- What follows the parameters, the intermediate characters and the final one of a sequence. -/
def afterSequence? (cs : List Char) : Option (List Char) :=
  match (cs.dropWhile (isBetween '0' '?')).dropWhile (isBetween ' ' '/') with
  | c :: r => if isBetween '@' '~' c then some r else none
  | [] => none

theorem length_afterSequence?_lt {cs r : List Char} (h : afterSequence? cs = some r) :
    r.length < cs.length := by
  unfold afterSequence? at h
  split at h
  · rename_i c q heq
    split at h
    · cases h
      have h1 := (List.dropWhile_sublist (isBetween ' ' '/')
        (l := cs.dropWhile (isBetween '0' '?'))).length_le
      have h2 := (List.dropWhile_sublist (isBetween '0' '?') (l := cs)).length_le
      rw [heq] at h1
      simp only [List.length_cons] at h1
      omega
    · cases h
  · cases h

/-- The text without control sequences; an escape that starts none is kept. -/
def strip : List Char → List Char
  | [] => []
  | c :: r =>
    if c = escape then
      match r with
      | '[' :: q =>
        match _h : afterSequence? q with
        | some t => strip t
        | none => c :: '[' :: strip q
      | q => c :: strip q
    else c :: strip r
termination_by cs => cs.length
decreasing_by
  all_goals simp only [List.length_cons]
  · have := length_afterSequence?_lt (by assumption); omega
  all_goals omega

end GridRobot.Escape
