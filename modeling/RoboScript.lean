import RoboScript.Binary
import RoboScript.Decimal
import RoboScript.Value
import RoboScript.Error
import RoboScript.Text.Printable
import RoboScript.Value.Text
import RoboScript.Value.Arith
import RoboScript.Operator
import RoboScript.Dialect
import RoboScript.Text.Digit
import RoboScript.Token
import RoboScript.Token.Lexer
import RoboScript.Program
import RoboScript.Program.Print
import RoboScript.Program.Nesting
import RoboScript.Program.Parse
import RoboScript.Scene
import RoboScript.Plane
import RoboScript.Robot.Setting
import RoboScript.Robot.Classic
import RoboScript.Robot.Queued
import RoboScript.Machine
import RoboScript.Execution
import RoboScript.Session
import RoboScript.Proofs.Grammar
import RoboScript.Proofs.ParseSound
import RoboScript.Proofs.ParseComplete
import RoboScript.Proofs.Language
import RoboScript.Proofs.Lookahead
import RoboScript.Proofs.Viable
import RoboScript.Proofs.Recovery
import RoboScript.Proofs.Dialects
import RoboScript.Proofs.Running
import RoboScript.Proofs.Room
import RoboScript.Proofs.Headroom
import RoboScript.Proofs.Stepping
import RoboScript.Proofs.ActionQueue
import RoboScript.Proofs.ActionFrames
import RoboScript.Proofs.Confined
import RoboScript.Proofs.Scoping
import RoboScript.Proofs.Heading
import RoboScript.Proofs.Magnitude
import RoboScript.Proofs.Mirror
import RoboScript.Proofs.Replay
import RoboScript.Proofs.Outcomes
import RoboScript.Proofs.Dispatch
import RoboScript.Proofs.Returns
import RoboScript.Proofs.CallGraph
import RoboScript.Proofs.MaximalMunch
import RoboScript.Proofs.ArgumentLists
import RoboScript.Proofs.CallScope
import RoboScript.Proofs.Frames
import RoboScript.Program.Automaton
import RoboScript.Program.Tables
import RoboScript.Proofs.LoopEnds
