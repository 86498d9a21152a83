import GridRobot.Board.Measure
import GridRobot.Board.Record
import GridRobot.Main
import GridRobot.Proofs.Simulator.Safety
import GridRobot.Proofs.Command.Grammar
import GridRobot.Proofs.Command.Reading
import GridRobot.Proofs.Simulator.Faults
import GridRobot.Proofs.Data.Json.Text
import GridRobot.Proofs.Data.Json.RoundTrip
import GridRobot.Proofs.Command.Payload
import GridRobot.Proofs.Simulator.Journal
import GridRobot.Proofs.Grid.Box
import GridRobot.Proofs.Grid.CellSet
import GridRobot.Proofs.Grid.Symmetry
import GridRobot.Proofs.Simulator.Outside
import GridRobot.Proofs.Simulator.Repetition
import GridRobot.Proofs.Simulator.Turns
import GridRobot.Proofs.Simulator.Symmetry
import GridRobot.Proofs.Command.Ascii
import GridRobot.Proofs.Data.Json.Charset
import GridRobot.Proofs.Data.Json.Decode
import GridRobot.Proofs.Text.Escape
import GridRobot.Proofs.Data.Members
import GridRobot.Proofs.Settings.Merge
import GridRobot.Proofs.Settings.Flags
import GridRobot.Proofs.Outcome.Record
import GridRobot.Proofs.Outcome.Printed
import GridRobot.Proofs.Simulator.Record
import GridRobot.Proofs.Command.Shown
import GridRobot.Proofs.Cli.Records
import GridRobot.Proofs.Board.Update
import GridRobot.Proofs.Simulator.Composition
import GridRobot.Proofs.Simulator.Erasure
import GridRobot.Proofs.Command.Report
import GridRobot.Proofs.Simulator.Report
import GridRobot.Proofs.Data.Json.Names
import GridRobot.Proofs.Settings.Layers
import GridRobot.Proofs.Settings.Variables
import GridRobot.Proofs.Config.Overrides
import GridRobot.Proofs.Settings.Keywords
import GridRobot.Proofs.Settings.Precedence
import GridRobot.Proofs.Settings.Effective
import GridRobot.Proofs.Simulator.Effect
import GridRobot.Proofs.Settings.Switches
import GridRobot.Proofs.Simulator.Retrace
import GridRobot.Proofs.Simulator.Advance
import GridRobot.Proofs.Simulator.Poses
import GridRobot.Proofs.Simulator.Obstacles
import GridRobot.Proofs.Board.Drawing
import GridRobot.Proofs.Cli.Diagnostics
import GridRobot.Proofs.Settings.Resized
import GridRobot.Proofs.Cli.Modes
import GridRobot.Proofs.Text.Utf8.Encoded
import GridRobot.Proofs.Text.Utf8.Runs
import GridRobot.Proofs.Text.Line.Terminated
import GridRobot.Proofs.Text.Line.Kept
import GridRobot.Proofs.Config.Sparse
import GridRobot.Proofs.Config.Discovery
import GridRobot.Proofs.Settings.Chosen
import GridRobot.Proofs.Data.Toml.Rest
import GridRobot.Proofs.Data.Toml.Faults
import GridRobot.Proofs.Cli.BadFiles
import GridRobot.Proofs.Cli.Reading
import GridRobot.Proofs.Log
import GridRobot.Proofs.Text.Quoted
import GridRobot.Proofs.Cli.RunLog
