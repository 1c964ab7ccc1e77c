import WaitGate.Condition
import WaitGate.Config
import WaitGate.Config.Decode
import WaitGate.Config.Edit
import WaitGate.Count
import WaitGate.Decimal.Shortest
import WaitGate.Gate.Basic
import WaitGate.Gate.Describe
import WaitGate.Gate.Notice
import WaitGate.Json.Decode
import WaitGate.Json.NumberLiteral
import WaitGate.Json.Reader
import WaitGate.Json.StringLiteral
import WaitGate.Level
import WaitGate.Machine.Basic
import WaitGate.Outcome
import WaitGate.Outcome.Decode
import WaitGate.Session.Basic
import WaitGate.Session.Command
import WaitGate.Session.Kinds
import WaitGate.Sink
import WaitGate.Text.Alphabetic
import WaitGate.Text.Blank
import WaitGate.Text.Extender
import WaitGate.Text.Numeric
import WaitGate.Text.Printable
import WaitGate.Text.Quoted
import WaitGate.Time.Span
import WaitGate.Trace.Console
import WaitGate.Trace.Directive
import WaitGate.Trace.Filter
import WaitGate.Trace.Install
import WaitGate.Trace.Pattern
import WaitGate.Trace.Pattern.Compile
import WaitGate.Trace.Pattern.Parse
import WaitGate.Trace.Pattern.Syntax
import WaitGate.Proofs.Machine.Steps
import WaitGate.Proofs.Machine.Waiters
import WaitGate.Proofs.Machine.Linearizable
import WaitGate.Proofs.Machine.Units
import WaitGate.Proofs.Machine.Wakeups
import WaitGate.Proofs.Machine.Saturation
import WaitGate.Proofs.Machine.Disabled
import WaitGate.Proofs.Machine.Drain
import WaitGate.Proofs.Machine.WakeOrder
import WaitGate.Proofs.Config.Environment
import WaitGate.Proofs.Machine.DrainSleep
import WaitGate.Proofs.Diagnostics
import WaitGate.Proofs.Session.Settle
