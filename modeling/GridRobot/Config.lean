import GridRobot.Config.Sections
import GridRobot.Data.Toml.Document

/-! Configurations: the sections that a file gives, and the standard for the rest. -/
namespace GridRobot

/-- What is given; sections and keys that are not given are absent. -/
structure Config where
  size : Option PartialSize
  glyphs : Option PartialGlyphs
  deriving DecidableEq, Repr

namespace Config

def recordName : String := "RobotConfig"

/-- Unknown sections and keys are ignored. -/
def ofData (k : Decimal.Counting) (d : Data) : Checked Config := do
  let ms ← Schema.members recordName d
  (Checked.both (Schema.optional ms "board" (PartialSize.ofData k))
    (Schema.optional ms "map" PartialGlyphs.ofData)).map fun p => ⟨p.1, p.2⟩

/-- A configuration that gives nothing. -/
def standard : Config := ⟨none, none⟩

def boardSize (c : Config) : BoardSize := (c.size.getD ⟨none, none⟩).complete

def mapGlyphs (c : Config) : Glyphs := (c.glyphs.getD ⟨none, none⟩).complete

/-- Only what is given. -/
def overrides (c : Config) : Members :=
  (c.size.map fun s => ("board", s.toData)).toList ++
    (c.glyphs.map fun g => ("map", g.toData)).toList

/-- Every section with every key. -/
def toData (c : Config) : Data :=
  .object [("board", c.boardSize.toData), ("map", c.mapGlyphs.toData)]

/-- Why the contents of a file are no configuration. -/
inductive Fault where
  | undecodable (cause : Utf8.Malformed)
  | overlong (numeral : OverlongNumeral)
  | tooNested
  | malformed
  | rejected (rejection : Rejection)
  deriving DecidableEq, Repr

def ofChars (l : Limits) (cs : List Char) : Except Fault Config :=
  match Toml.ofChars l.toml cs with
  | .error .malformed => .error .malformed
  | .error (.overlong e) => .error (.overlong e)
  | .error .tooNested => .error .tooNested
  | .ok ms => ((ofData l.counting (.object ms)).titled recordName).mapError .rejected

/-- The contents of a file are decoded before anything else. -/
def ofBytes (l : Limits) (bytes : List UInt8) : Except Fault Config :=
  match Utf8.decodeChecked bytes with
  | .error e => .error (.undecodable e)
  | .ok cs => ofChars l cs

end Config
end GridRobot
