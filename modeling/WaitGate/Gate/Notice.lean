import WaitGate.Level
/-!
# Notices of a gate

The lines a gate offers its sink, each with a level and a message that starts with the gate's
label in brackets:

* `disabled while N threads waiting` (debug), when a disable finds waiters inside;
* `draining N waiting threads` and `drained in …` (debug), around a draining disable that found
  waiters;
* `drain still pending after …: K threads waiting` (warn), each time a drain check interval passes
  with waiters still inside a disabled gate;
* `re-enabled during drain, M threads left waiting` (warn), when a drain gives up because the gate
  was enabled again;
* `increase by D from B saturated` and `decrease by D from B saturated` (warn), when a counter had
  to clamp.

How long a drain took, or has taken so far, is not part of the model: its line carries the mark
`<elapsed>`.
-/

namespace WaitGate

/-- A line a gate offers its sink. -/
inductive Notice where
  | disabledWhileWaiting (waiting : Nat)
  | draining (waiting : Nat)
  | drained
  | stillPending (waiting : Nat)
  | abandoned (waiting : Nat)
  | saturated (lowering : Bool) (delta before : Int)
  deriving DecidableEq, Repr

namespace Notice

/-- The level of a notice. -/
def level : Notice → Level
  | stillPending _ | abandoned _ | saturated .. => .warn
  | _ => .debug

/-- The message of a notice from a gate with the given label. -/
def message (label : String) : Notice → String
  | disabledWhileWaiting n => "[" ++ label ++ "] disabled while " ++ toString n ++ " threads waiting"
  | draining n => "[" ++ label ++ "] draining " ++ toString n ++ " waiting threads"
  | drained => "[" ++ label ++ "] drained in <elapsed>"
  | stillPending n =>
    "[" ++ label ++ "] drain still pending after <elapsed>: " ++ toString n ++ " threads waiting"
  | abandoned n =>
    "[" ++ label ++ "] re-enabled during drain, " ++ toString n ++ " threads left waiting"
  | saturated lowering d b =>
    "[" ++ label ++ "] " ++ (if lowering then "decrease" else "increase") ++ " by " ++ toString d ++
      " from " ++ toString b ++ " saturated"

end Notice

end WaitGate
