/-! Lowering of ASCII letters. -/
namespace GridRobot.LetterCase

/-- Only the letters A to Z change, so a word of ASCII letters is matched by ASCII text alone. -/
def lower (cs : List Char) : List Char := cs.map Char.toLower

def SameLetters (a b : List Char) : Prop := lower a = lower b

instance (a b : List Char) : Decidable (SameLetters a b) := by unfold SameLetters; infer_instance

end GridRobot.LetterCase
