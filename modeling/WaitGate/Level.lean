/-!
# Levels of diagnostic lines

A line has a level, from the most severe: error, warn, info, debug, trace. A level filter keeps
the lines up to a given level of detail, or none at all.
-/

namespace WaitGate

/-- How severe a diagnostic line is, most severe first. -/
inductive Level where
  | error
  | warn
  | info
  | debug
  | trace
  deriving DecidableEq, Repr

namespace Level

/-- The rank of a level: 1 for error up to 5 for trace. -/
def rank : Level → Nat
  | error => 1
  | warn => 2
  | info => 3
  | debug => 4
  | trace => 5

/-- The name of a level. -/
def name : Level → String
  | error => "ERROR"
  | warn => "WARN"
  | info => "INFO"
  | debug => "DEBUG"
  | trace => "TRACE"

/-- The level of a name. -/
def ofName? : String → Option Level
  | "ERROR" => some error
  | "WARN" => some warn
  | "INFO" => some info
  | "DEBUG" => some debug
  | "TRACE" => some trace
  | _ => none

end Level

/-- The most detailed level kept, or nothing kept. -/
inductive LevelFilter where
  | off
  | upTo (l : Level)
  deriving DecidableEq, Repr

namespace LevelFilter

/-- The rank of a filter: 0 when off, else that of its level. -/
def rank : LevelFilter → Nat
  | off => 0
  | upTo l => l.rank

/-- Whether a filter keeps lines of a level. -/
def keeps (f : LevelFilter) (l : Level) : Bool := l.rank ≤ f.rank

/-- The filter of a name: `OFF` or a level. -/
def ofName? (s : String) : Option LevelFilter :=
  if s = "OFF" then some off else (Level.ofName? s).map upTo

/-- The more permissive of two filters. -/
def join (a b : LevelFilter) : LevelFilter := if a.rank ≤ b.rank then b else a

@[simp] theorem keeps_off (l : Level) : off.keeps l = false := by cases l <;> rfl

end LevelFilter

end WaitGate
