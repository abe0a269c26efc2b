import CompilerFront.Expr.Literal
import CompilerFront.Expr.Token
import CompilerFront.Text.Blank
import CompilerFront.Expr.Lexer
import CompilerFront.Expr.Parser
import CompilerFront.Expr.Constant
import CompilerFront.Invocation.Arguments
import CompilerFront.Invocation.Resolution
import CompilerFront.Duration
import CompilerFront.Fault
import CompilerFront.Request
import CompilerFront.Front.Journal
import CompilerFront.Text.Graphic
import CompilerFront.Text.Quoted
import CompilerFront.Front.Help
import CompilerFront.Front.Notes
import CompilerFront.Front.Run
import CompilerFront.Backend.Child
import CompilerFront.Backend.Process
import CompilerFront.Revision
import CompilerFront.Terminal.Style
import CompilerFront.Decimal.Double
import CompilerFront.Decimal.Shortest
import CompilerFront.Settings.Node
import CompilerFront.Settings.Quotation
import CompilerFront.Settings.Scalar
import CompilerFront.Settings.Assembly
import CompilerFront.Settings.Document
import CompilerFront.Settings.Override
import CompilerFront.Settings.Source
import CompilerFront.Host.Files
import CompilerFront.Host.Shell
import CompilerFront.Host.Programs
import CompilerFront.Program
import CompilerFront.Host.World
import CompilerFront.Main
import CompilerFront.Proofs.Grammar.Acceptance
import CompilerFront.Proofs.Evaluation.Demand
import CompilerFront.Proofs.Printing.RoundTrip
import CompilerFront.Proofs.Guarded.Constant
import CompilerFront.Proofs.Segmentation.Gap
import CompilerFront.Proofs.Segmentation.Lexeme
import CompilerFront.Proofs.Segmentation.MaximalMunch
import CompilerFront.Proofs.Runs.Course
import CompilerFront.Proofs.Runs.Resolution
import CompilerFront.Proofs.Runs.Contract
import CompilerFront.Proofs.Runs.Requests
import CompilerFront.Proofs.Interchange.Grammar
import CompilerFront.Proofs.Interchange.Reader
import CompilerFront.Proofs.Interchange.Writer
import CompilerFront.Proofs.Interchange.Payload
import CompilerFront.Proofs.Columns.Faults
import CompilerFront.Proofs.Settings.Precedence
import CompilerFront.Proofs.Runs.Isolation
import CompilerFront.Proofs.Runs.Exclusive
import CompilerFront.Proofs.Layout.Relocation
import CompilerFront.Proofs.Layout.Spread
import CompilerFront.Proofs.Writing.Text
import CompilerFront.Proofs.Arguments.RoundTrip
import CompilerFront.Proofs.Runs.Children
import CompilerFront.Proofs.Integers.Bits
import CompilerFront.Proofs.Runs.Priority
import CompilerFront.Proofs.Integers.Exact
import CompilerFront.Proofs.Settings.Variables
import CompilerFront.Proofs.Settings.Overrides
import CompilerFront.Proofs.Settings.Loading
import CompilerFront.Proofs.Writing.Derivation
import CompilerFront.Proofs.Writing.Nesting
import CompilerFront.Proofs.Segmentation.Places
import CompilerFront.Proofs.Literals.Digits
import CompilerFront.Proofs.Literals.Numbers
import CompilerFront.Proofs.Literals.Strings
import CompilerFront.Proofs.Runs.Warnings
import CompilerFront.Proofs.Settings.Distinct
import CompilerFront.Proofs.Settings.Schema
import CompilerFront.Proofs.Evaluation.Kinds
import CompilerFront.Proofs.Calls.Contract
import CompilerFront.Proofs.Calls.Termination
