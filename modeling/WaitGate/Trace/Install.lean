import WaitGate.Trace.Console
import WaitGate.Sink
/-!
# Installing the console subscriber

A process can install one console subscriber, the first time it asks; every later install is
refused. The subscriber is set up from three environment variables: the filter (`info` when
unset or unreadable), JSON lines when the JSON switch is exactly `1` or `true`, and colour unless
the no-colour switch is set to a non-empty value. A successful install announces itself with an
info line `tracing initialized` carrying the field `json`.

A gate whose lines go to the process-wide subscriber asks it whether it wants lines of the
library's target at a level, with no fields yet; the line it then writes carries its message.
-/

namespace WaitGate.Trace

/-- The environment variables the subscriber reads, `none` when unset. -/
structure Environment where
  filter : Option String := none
  json : Option String := none
  noColour : Option String := none

/-- The names of the environment variables the subscriber reads, in order. -/
def Environment.names : List String := ["RUST_LOG", "SYNC_GATE_TRACE_JSON", "NO_COLOR"]

/-- A console subscriber: its filter and its style. -/
structure Subscriber where
  filter : Filter
  style : Style

namespace Subscriber

/-- Whether the subscriber writes JSON lines. -/
def isJson (s : Subscriber) : Bool :=
  match s.style with
  | .json => true
  | .compact _ => false

/-- The subscriber an environment sets up; the error is a filter whose reading stopped the
process. -/
def ofEnv (env : Environment) : Except Fault Subscriber :=
  let json := env.json = some "1" || env.json = some "true"
  let colour := env.noColour.all (·.isEmpty)
  (Filter.ofEnv env.filter).map fun f => ⟨f, if json then .json else .compact colour⟩

/-- The target of the announcement of an install. -/
def announcementTarget : String := "sync_gate::monitoring::tracer"

/-- The line that announces an install. -/
def announcement (s : Subscriber) : Event :=
  ⟨announcementTarget, .info, [("message", .text "tracing initialized"), ("json", .flag s.isJson)]⟩

/-- Whether the subscriber wants the library's lines of a level, asked before one is made. -/
def wants (s : Subscriber) (l : Level) : Bool := s.filter.allows ⟨logTarget, l, .hint⟩

/-- A gate's line as an event. -/
def gateEvent (line : Level × String) : Event := ⟨logTarget, line.1, [("message", .text line.2)]⟩

/-- What the console shows of events: those the filter lets through, in the subscriber's style. -/
def display (s : Subscriber) (events : List Event) : List String :=
  s.style.lines (events.filter fun e => s.filter.allows e.callsite)

end Subscriber

/-- Install `calls` times in a fresh process: the answers, the first one true, and the subscriber
installed, if any; the error is a first install whose filter stopped the process. -/
def install (env : Environment) (calls : Nat) : Except Fault (List Bool × Option Subscriber) :=
  match calls with
  | 0 => .ok ([], none)
  | n + 1 => (Subscriber.ofEnv env).map fun s => (true :: List.replicate n false, some s)

/-- Install `calls` times in a process that already has a subscriber: every install is refused. -/
def installTaken (calls : Nat) : List Bool := List.replicate calls false

/-- Whether the process-wide subscriber, if one is installed, wants the library's lines of a level. -/
def wanted (sub : Option Subscriber) (l : Level) : Bool := sub.any (·.wants l)

/-- The console of a fresh process after its installs and a gate's lines. -/
def consoleOf (sub : Option Subscriber) (gateLines : List (Level × String)) : List String :=
  match sub with
  | none => []
  | some s => s.display (s.announcement :: gateLines.map Subscriber.gateEvent)

end WaitGate.Trace
