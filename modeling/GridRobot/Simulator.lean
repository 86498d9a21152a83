import GridRobot.Board.Drawing
import GridRobot.Board.Size
import GridRobot.Board.Update
import GridRobot.Command.Line
import GridRobot.Text.Quoted

/-! Running lines against a board that is handed on from line to line. -/
namespace GridRobot

structure Simulator where
  size : BoardSize
  glyphs : Glyphs
  deriving DecidableEq, Repr

/-- What became of one line: it was no command, or the command was run. -/
inductive StepReport where
  | failed (error : LineError)
  | ran (command : Command) (output : Option String) (committed : Bool)
  deriving DecidableEq, Repr

/-- What is written to the log about a line or about a whole run. -/
inductive Note where
  | lineFailed (code line : String)
  | boardRejected (kind line : String)
  | finished (lines : Nat)
  deriving DecidableEq, Repr

/-- Lines are quoted, so that a note never has more than one line. -/
def Note.message : Note → String
  | lineFailed code line => "Parse failed (" ++ code ++ "): " ++ Quoted.quote line
  | boardRejected kind line => "Rejected invalid board after " ++ kind ++ ": " ++ Quoted.quote line
  | finished lines => "Processed " ++ String.ofList (Decimal.ofNat lines) ++ " lines"

/-- The board after a line, the report of the line, and the note on it if there is one. -/
structure Step where
  board : Board
  report : StepReport
  note : Option Note
  deriving DecidableEq, Repr

/-- Why a line stops a run: it holds a numeral, or asks for an integer, that is too long. -/
inductive StepFault where
  | numeral (fault : OverlongNumeral)
  | answer (fault : OverlongInteger)
  deriving DecidableEq, Repr

def StepFault.message : StepFault → String
  | numeral e => e.message
  | answer e => e.message

namespace Simulator

def initialBoard (s : Simulator) : Board := s.size.board

/-- The answer is given on the board before the command, and the board after it must be valid. -/
def perform (s : Simulator) (b : Board) (line : String) (c : Command) :
    Except OverlongInteger Step := do
  let output ← b.answer c s.glyphs
  let candidate := b.after c
  if candidate.Valid then return ⟨candidate, .ran c output true, none⟩
  else return ⟨b, .ran c output false, some (.boardRejected c.kind line)⟩

/-- A line that is no command leaves the board as it is. -/
def step (s : Simulator) (b : Board) (line : String) : Except StepFault Step := do
  match ← (Command.ofLine line).mapError .numeral with
  | .ok c => (s.perform b line c).mapError .answer
  | .error e => return ⟨b, .failed e, some (.lineFailed e.code line)⟩

/-- The steps of all lines, up to one that stops the run. -/
def journal (s : Simulator) (b : Board) : List String → List Step × Option StepFault
  | [] => ([], none)
  | l :: ls =>
    match s.step b l with
    | .error e => ([], some e)
    | .ok t =>
      let rest := journal s t.board ls
      (t :: rest.1, rest.2)

/-- One report for each line. -/
def run (s : Simulator) (b : Board) (lines : List String) :
    Except StepFault (List StepReport) :=
  match s.journal b lines with
  | (ts, none) => .ok (ts.map Step.report)
  | (_, some e) => .error e

/-- The board after all lines. -/
def replay (s : Simulator) (b : Board) : List String → Except StepFault Board
  | [] => .ok b
  | l :: ls => do
    let t ← s.step b l
    replay s t.board ls

/-- The notes of a run in order, the last one on the run as a whole. -/
def notes (s : Simulator) (b : Board) (lines : List String) : Except StepFault (List Note) :=
  match s.journal b lines with
  | (ts, none) => .ok (ts.filterMap Step.note ++ [.finished lines.length])
  | (_, some e) => .error e

end Simulator
end GridRobot
