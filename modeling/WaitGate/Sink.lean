import WaitGate.Gate.Notice
/-!
# Sinks of diagnostic lines

A gate hands each diagnostic line to a sink, after asking the sink whether it wants lines of that
level; a line nobody wants is never formatted.

* A capturing sink keeps every line, as its level and message.
* A silent sink keeps none.
* A backend keeps the lines its level filter keeps, together with the library's target.
* The process-wide subscriber decides by a filter of its own and writes what it keeps to the
  console.
-/

namespace WaitGate

/-- The target under which the library's lines are filed. -/
def logTarget : String := "sync_gate"

/-- Where a gate's diagnostic lines go. -/
inductive Sink where
  | capture
  | silent
  | backend (filter : LevelFilter)
  | ambient (accepts : Level → Bool)

namespace Sink

/-- Whether a sink wants lines of a level. -/
def accepts : Sink → Level → Bool
  | capture, _ => true
  | silent, _ => false
  | backend f, l => f.keeps l
  | ambient a, l => a l

/-- One emit of a gate's notice under the gate's label: the sink is asked first whether it wants
the notice's level, and only then is the message formatted and logged, at that level. -/
def emit (s : Sink) (label : String) (n : Notice) : List (Level × String) :=
  if s.accepts n.level then [(n.level, n.message label)] else []

/-- A line offered to a sink directly: whether the sink wants its level, and the lines a
backend keeps of it. Only a wanted line is kept. -/
def receive (s : Sink) (l : Level) (message : String) : Bool × List (Level × String) :=
  let wanted := s.accepts l
  (wanted, match s with
    | backend _ => if wanted then [(l, message)] else []
    | _ => [])

end Sink

end WaitGate
