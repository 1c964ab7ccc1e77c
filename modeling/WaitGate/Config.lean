import WaitGate.Time.Span
import WaitGate.Text.Blank
import WaitGate.Text.Quoted
/-!
# Gate configurations

A configuration gives a gate its label, which prefixes every diagnostic line, and the interval at
which a draining disable looks again at the waiters still inside. The interval that is used is
never below one millisecond, whatever is stored.

An interval can also come from an environment string: blanks at both ends are dropped, an optional
`+` may lead, and the rest must be ASCII digits giving a count of milliseconds below `2 ^ 64`. A
string of any other form, or no string at all, gives the default configuration.
-/

namespace WaitGate

/-- A gate's label and drain-check interval. -/
structure Config where
  label : String
  interval : Span
  deriving DecidableEq

namespace Config

/-- The name of the environment variable that `ofEnv` reads. -/
def intervalVariable : String := "SYNC_GATE_DRAIN_CHECK_MS"

/-- The shortest interval used: one millisecond. -/
def minInterval : Span := Span.milli

/-- The interval of a default configuration: 100 milliseconds. -/
def defaultInterval : Span := Span.ofMillis 100 (by omega)

/-- The default configuration: label `gate`, 100 milliseconds. -/
def default : Config := ⟨"gate", defaultInterval⟩

/-- A configuration with a label of one's own and the default interval. -/
def named (label : String) : Config := ⟨label, defaultInterval⟩

/-- A configuration that looks at its waiters every 10 milliseconds. -/
def responsive : Config := ⟨"gate", Span.ofMillis 10 (by omega)⟩

/-- The same configuration under another label. -/
def withLabel (c : Config) (label : String) : Config := { c with label }

/-- The same configuration with another interval, raised to the shortest one if below it. -/
def withInterval (c : Config) (d : Span) : Config := { c with interval := d.longer minInterval }

/-- The interval a draining disable waits between looks. -/
def effectiveInterval (c : Config) : Span := c.interval.longer minInterval

/-- The value of an ASCII digit. -/
def digitValue (c : Char) : Nat := c.toNat - '0'.toNat

/-- The number written by ASCII digits, most significant first. -/
def digitsValue (ds : List Char) : Nat := ds.foldl (fun n c => 10 * n + digitValue c) 0

/-- A count of milliseconds in an environment string: blanks trimmed, an optional `+`, then one or
more ASCII digits denoting a number below `2 ^ 64`. -/
def parseMillis? (s : String) : Option Nat :=
  let t := Text.trimBlanks s.toList
  let ds := match t with
    | '+' :: rest => rest
    | _ => t
  if !ds.isEmpty && ds.all Char.isDigit && digitsValue ds < 18446744073709551616 then some (digitsValue ds)
  else none

/-- The configuration that an environment string gives, `none` standing for an absent variable:
the default label and the parsed interval, raised to one millisecond, or the default
configuration when the string does not parse. -/
def ofEnv (s : Option String) : Config :=
  match s.bind parseMillis? with
  | some ms =>
    if h : ms < 18446744073709551616 then ⟨"gate", (Span.ofMillis ms h).longer minInterval⟩ else default
  | none => default

/-- The text of a configuration in diagnostics. -/
def render (c : Config) : String :=
  "GateConfig \x7b label: " ++ Text.quote c.label ++ ", drain_check_interval: " ++
    c.interval.render ++ " \x7d"

example : parseMillis? " +7 " = some 7 := by decide +kernel
example : parseMillis? "-0" = none ∧ parseMillis? "+" = none ∧ parseMillis? "1_000" = none := by
  decide +kernel

end Config

end WaitGate
