import GridRobot.Outcome
import GridRobot.Settings
import GridRobot.Text.Escape

/-! What a run of the program writes, and how it ends. -/
namespace GridRobot.Cli

inductive Stream where
  | out
  | err
  deriving DecidableEq, Repr

structure Emission where
  stream : Stream
  text : String
  deriving DecidableEq, Repr

namespace Emission

/-- Control sequences are removed. -/
def plain (stream : Stream) (text : String) : Emission :=
  ⟨stream, String.ofList (Escape.strip text.toList)⟩

def line (stream : Stream) (text : String) : Emission := plain stream (text ++ "\n")

end Emission

/-- Why the program stops without an exit code of its own. -/
inductive Crash where
  | settings (fault : Settings.Fault)
  | file (error : FileError)
  | line (fault : StepFault)
  | record (fault : TooDeep)
  deriving DecidableEq, Repr

def Crash.message : Crash → String
  | settings (.search e) => e.message
  | settings (.config p (.noFile e)) => e.message p.text
  | settings (.config _ (.unusable (.undecodable e))) => e.message
  | settings (.config _ (.unusable (.overlong e))) => e.message
  | settings (.config _ (.unusable .tooNested)) => TooNested.document.message
  | settings (.config p (.unusable .malformed)) => "Invalid TOML in " ++ p.text
  | settings (.config _ (.unusable (.rejected r))) => r.message
  | settings (.environment e) => e.message
  | settings (.rejected r) => r.message
  | file e => e.message
  | line e => e.message
  | record e => e.jsonMessage

inductive Ending where
  | exit (code : Nat)
  | crash (cause : Crash)
  deriving DecidableEq, Repr

structure Transcript where
  emissions : List Emission
  ending : Ending
  deriving DecidableEq, Repr

namespace Transcript

/-- All that is written to a stream. -/
def written (t : Transcript) (s : Stream) : String :=
  String.join ((t.emissions.filter (·.stream = s)).map Emission.text)

def stdout (t : Transcript) : String := t.written .out

def stderr (t : Transcript) : String := t.written .err

def crashed (c : Crash) : Transcript := ⟨[], .crash c⟩

end Transcript

end GridRobot.Cli
