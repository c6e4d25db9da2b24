import LineMachine.Arguments
import LineMachine.Command
import LineMachine.CommandLine
import LineMachine.Diagnostic
import LineMachine.Directory
import LineMachine.Event
import LineMachine.Lexeme
import LineMachine.Machine
import LineMachine.Main
import LineMachine.Number
import LineMachine.Number.Decimal
import LineMachine.Number.Format
import LineMachine.Operation
import LineMachine.Program
import LineMachine.Proofs.Instruction.Rows
import LineMachine.Proofs.Lexeme.Boundary
import LineMachine.Proofs.Lexeme.Grammar
import LineMachine.Proofs.Lexeme.Lines
import LineMachine.Proofs.Machine.Runs
import LineMachine.Proofs.Machine.StepLimit
import LineMachine.Proofs.Number.Bits
import LineMachine.Proofs.Number.ReadBack
import LineMachine.Proofs.Number.Rounding
import LineMachine.Proofs.Operation.ReadBack
import LineMachine.Proofs.Program.Listing
import LineMachine.Proofs.Program.Table
import LineMachine.Proofs.Source.Lines
import LineMachine.Seed
import LineMachine.Session
import LineMachine.Session.Files
import LineMachine.Source
import LineMachine.State
import LineMachine.Text.Basic
import LineMachine.Text.Escape
import LineMachine.Text.LetterCase
import LineMachine.Token
import LineMachine.Token.Scan
import LineMachine.Proofs.Number.Value
import LineMachine.Proofs.Number.Sum
import LineMachine.Proofs.Number.Next
import LineMachine.Proofs.Machine.Halting
import LineMachine.Proofs.Machine.FallThrough
import LineMachine.Proofs.Program.Relocate
import LineMachine.Proofs.Machine.Relocate
import LineMachine.Proofs.Token.Pieces
import LineMachine.Proofs.Machine.Faults
import LineMachine.Proofs.Machine.Repetition
import LineMachine.Proofs.Machine.StraightLine
import LineMachine.Proofs.Operation.OneLine
import LineMachine.Proofs.Session.Display
import LineMachine.Proofs.State.Stack
import LineMachine.Proofs.Machine.Beneath
import LineMachine.Proofs.Machine.StackOrder
import LineMachine.Proofs.Source.Tokens
import LineMachine.Proofs.Session.Events
import LineMachine.Proofs.Seed.Characters
import LineMachine.Proofs.Instruction.Spelling
import LineMachine.Proofs.Instruction.Groups
import LineMachine.Proofs.Program.Layout
import LineMachine.Proofs.Source.Trailing
import LineMachine.Proofs.Seed.Lines
import LineMachine.Proofs.Instruction.Indices
import LineMachine.Proofs.Number.Snapshot
import LineMachine.Proofs.State.Snapshot
import LineMachine.Proofs.Number.Fields
import LineMachine.Proofs.Number.Character
