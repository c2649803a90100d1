import Gridbot.Main
import Gridbot.Proofs.Robot.Ideal
import Gridbot.Proofs.Session.Course
import Gridbot.Proofs.Text.Blank
import Gridbot.Proofs.Session.Steps
import Gridbot.Proofs.Session.Placed
import Gridbot.Proofs.Session.Batch
import Gridbot.Proofs.Session.Dialogue
import Gridbot.Proofs.Text.Numeral
import Gridbot.Proofs.Text.Pieces
import Gridbot.Proofs.Command.Grammar
import Gridbot.Proofs.Session.Observation
import Gridbot.Proofs.Session.Checkpoint
import Gridbot.Proofs.Arrival
import Gridbot.Proofs.Robot.Region
import Gridbot.Proofs.Session.Cleaned
import Gridbot.Proofs.Session.Sources
import Gridbot.Proofs.Session.Isolation
import Gridbot.Proofs.Session.Flushing
import Gridbot.Proofs.Session.Thinning
import Gridbot.Proofs.Session.Readback
import Gridbot.Proofs.Session.Probes
import Gridbot.Proofs.Robot.Axes
import Gridbot.Proofs.Robot.Walls
import Gridbot.Proofs.Session.OpenCells
import Gridbot.Proofs.Log
import Gridbot.Proofs.Session.Audit
import Gridbot.Proofs.Program
import Gridbot.Proofs.Session.Layout
import Gridbot.Proofs.Settings.Arguments
import Gridbot.Proofs.Settings.NumberPair
import Gridbot.Proofs.Command.Faults
import Gridbot.Proofs.Command.Shortest
import Gridbot.Proofs.Session.Margins
import Gridbot.Proofs.Robot.Retrace
import Gridbot.Proofs.Robot.March
import Gridbot.Proofs.Robot.Compass
import Gridbot.Proofs.Robot.Verdict
import Gridbot.Proofs.Text.Quoted
import Gridbot.Proofs.Messages
import Gridbot.Proofs.CommandFile.Instructions
import Gridbot.Proofs.CommandFile.Checks
