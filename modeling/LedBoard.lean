import LedBoard.ActionMachine.Action
import LedBoard.ActionMachine.Call
import LedBoard.ActionMachine.Context
import LedBoard.ActionMachine.Library
import LedBoard.ActionMachine.Object
import LedBoard.ActionMachine.Run
import LedBoard.Binary64.Basic
import LedBoard.Binary64.Shortest
import LedBoard.Bindings
import LedBoard.CommandLine.FileSystem
import LedBoard.CommandLine.Help
import LedBoard.CommandLine.Options
import LedBoard.CommandLine.Path
import LedBoard.CommandLine.Perform
import LedBoard.CommandLine.Stamps
import LedBoard.CommandLine.System
import LedBoard.CommandLine.Variables
import LedBoard.Config
import LedBoard.Devices
import LedBoard.Display.Led
import LedBoard.Display.Scroll
import LedBoard.Embedded.Binding
import LedBoard.Embedded.Crossing
import LedBoard.Embedded.Instance
import LedBoard.Embedded.Library
import LedBoard.Engine
import LedBoard.Error
import LedBoard.Glyph
import LedBoard.Host.Basic
import LedBoard.Host.Event
import LedBoard.Json.Number
import LedBoard.Json.Problem
import LedBoard.Json.Reader
import LedBoard.Json.Scanner
import LedBoard.Json.Tree
import LedBoard.Json.Writer
import LedBoard.Main
import LedBoard.Module
import LedBoard.Native
import LedBoard.Output
import LedBoard.Plan
import LedBoard.Script.Exception
import LedBoard.Script.Interpreter
import LedBoard.Script.Object
import LedBoard.Script.Parser
import LedBoard.Script.Program
import LedBoard.Script.Token
import LedBoard.Script.Tree
import LedBoard.Sensors
import LedBoard.Session
import LedBoard.Simulator
import LedBoard.Terminal.Console
import LedBoard.Terminal.Paint
import LedBoard.Terminal.Screen
import LedBoard.Text.Blank
import LedBoard.Text.Decimal
import LedBoard.Text.Hex
import LedBoard.Text.Letter
import LedBoard.Text.Quoted
import LedBoard.Text.Ranges
import LedBoard.Text.Terminator
import LedBoard.Text.Utf8
import LedBoard.Time.Moment
import LedBoard.Time.Pattern
import LedBoard.Value
import LedBoard.Proofs.ActionMachine.Tame
import LedBoard.Proofs.Binary64.Magnitude
import LedBoard.Proofs.Board.Calls
import LedBoard.Proofs.Board.Effects
import LedBoard.Proofs.Board.Passage
import LedBoard.Proofs.Board.Refusal
import LedBoard.Proofs.CommandLine.Program
import LedBoard.Proofs.Config.RoundTrip
import LedBoard.Proofs.Display.Checked
import LedBoard.Proofs.Display.Crossing
import LedBoard.Proofs.Display.Led
import LedBoard.Proofs.Display.Range
import LedBoard.Proofs.Display.Replay
import LedBoard.Proofs.Display.Scroll
import LedBoard.Proofs.Embedded.Growth
import LedBoard.Proofs.Embedded.History
import LedBoard.Proofs.Embedded.Invocation
import LedBoard.Proofs.Embedded.Lifetime
import LedBoard.Proofs.Embedded.Loading
import LedBoard.Proofs.Embedded.Operations
import LedBoard.Proofs.Embedded.Performing
import LedBoard.Proofs.Embedded.Requests
import LedBoard.Proofs.Embedded.Slots
import LedBoard.Proofs.Engine.Protocol
import LedBoard.Proofs.Engine.Watch
import LedBoard.Proofs.Host.Commands
import LedBoard.Proofs.Host.Output
import LedBoard.Proofs.Host.Trace
import LedBoard.Proofs.Json.Grammar
import LedBoard.Proofs.Json.Integers
import LedBoard.Proofs.Json.Locality
import LedBoard.Proofs.Json.Records
import LedBoard.Proofs.Json.Skipping
import LedBoard.Proofs.Module.Building
import LedBoard.Proofs.Module.Sequence
import LedBoard.Proofs.Output.Happening
import LedBoard.Proofs.Output.History
import LedBoard.Proofs.Output.Scene
import LedBoard.Proofs.Script.Arithmetic
import LedBoard.Proofs.Script.Classes
import LedBoard.Proofs.Script.Completeness
import LedBoard.Proofs.Script.Cursor
import LedBoard.Proofs.Script.Exit
import LedBoard.Proofs.Script.Failure
import LedBoard.Proofs.Script.Frame
import LedBoard.Proofs.Script.Grammar
import LedBoard.Proofs.Script.Imports
import LedBoard.Proofs.Script.Journal
import LedBoard.Proofs.Script.Lexeme
import LedBoard.Proofs.Script.Lines
import LedBoard.Proofs.Script.Midway
import LedBoard.Proofs.Script.Modes
import LedBoard.Proofs.Script.Parentheses
import LedBoard.Proofs.Script.Progress
import LedBoard.Proofs.Script.Reading
import LedBoard.Proofs.Script.Recognition
import LedBoard.Proofs.Script.Scan
import LedBoard.Proofs.Script.Sequence
import LedBoard.Proofs.Script.Simulation
import LedBoard.Proofs.Script.Soundness
import LedBoard.Proofs.Script.Unambiguity
import LedBoard.Proofs.Script.Unmentioned
import LedBoard.Proofs.Script.Writing
import LedBoard.Proofs.Sensors.Latch
import LedBoard.Proofs.Sensors.Literals
import LedBoard.Proofs.Sensors.Saturation
import LedBoard.Proofs.Session.Calls
import LedBoard.Proofs.Session.Echo
import LedBoard.Proofs.Session.History
import LedBoard.Proofs.Session.Line
import LedBoard.Proofs.Simulation
import LedBoard.Proofs.Simulator.Calls
import LedBoard.Proofs.Simulator.Fresh
import LedBoard.Proofs.Simulator.History
import LedBoard.Proofs.Simulator.Machine
import LedBoard.Proofs.Simulator.Program
import LedBoard.Proofs.Simulator.Range
import LedBoard.Proofs.Simulator.Safety
import LedBoard.Proofs.Terminal.Conversation
import LedBoard.Proofs.Terminal.Drawings
import LedBoard.Proofs.Terminal.Pieces
import LedBoard.Proofs.Text.Octets
import LedBoard.Proofs.Text.Runs
