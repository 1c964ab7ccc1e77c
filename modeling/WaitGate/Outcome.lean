/-!
# Outcomes of a wait

A wait ends in one of three ways: its condition was met, its deadline passed first, or the gate
was disabled. The last two are also errors of a wait, each with a message, a code and advice.
-/

namespace WaitGate

/-- How a wait ended. -/
inductive Outcome where
  | conditionMet
  | timeout
  | disabled
  deriving DecidableEq, Repr

/-- A wait that did not meet its condition. -/
inductive WaitError where
  | timeout
  | disabled
  deriving DecidableEq, Repr

namespace WaitError

/-- The name of an error in data. -/
def name : WaitError → String
  | timeout => "timeout"
  | disabled => "disabled"

/-- The name of an error in diagnostics. -/
def label : WaitError → String
  | timeout => "Timeout"
  | disabled => "Disabled"

/-- What the error says to a reader. -/
def message : WaitError → String
  | timeout => "Wait operation timed out"
  | disabled => "Gate is disabled"

/-- The error's code. -/
def code : WaitError → String
  | timeout => "gate::timeout"
  | disabled => "gate::disabled"

/-- What to do about the error. -/
def help : WaitError → String
  | timeout => "The value never satisfied the predicate. Check the producer side or raise the timeout."
  | disabled => "The gate was shut down. Call enable() before waiting again."

/-- The outcome of a wait that failed so. -/
def toOutcome : WaitError → Outcome
  | timeout => .timeout
  | disabled => .disabled

end WaitError

namespace Outcome

/-- The name of an outcome in data. -/
def name : Outcome → String
  | conditionMet => "condition_met"
  | timeout => "timeout"
  | disabled => "disabled"

/-- The name of an outcome in diagnostics. -/
def label : Outcome → String
  | conditionMet => "ConditionMet"
  | timeout => "Timeout"
  | disabled => "Disabled"

/-- The error of an outcome, none when the condition was met. -/
def error? : Outcome → Option WaitError
  | conditionMet => none
  | timeout => some .timeout
  | disabled => some .disabled

@[simp] theorem error?_toOutcome (e : WaitError) : e.toOutcome.error? = some e := by
  cases e <;> rfl

end Outcome

end WaitGate
