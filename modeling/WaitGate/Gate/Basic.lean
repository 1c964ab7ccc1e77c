import WaitGate.Outcome
/-!
# Gates

A gate holds a value, whether it is enabled, and how many threads are inside a wait on it. Every
operation on a gate is one critical section under its lock. Here each is a function from the state
before to the state after, together with the wake-ups it sends:

* a change of the value or of the enabled flag wakes every thread asleep in a wait;
* a waiter that leaves a disabled gate as the last one inside wakes a draining thread.

Setting or updating the value and disabling wake the waiters; enabling wakes nobody, since no
waiter stays asleep on a disabled gate.

A waiter looks at the gate when it enters and whenever it wakes. On a disabled gate it leaves with
`disabled` before its condition is asked. Otherwise the condition decides: when it holds, the
waiter runs its action, if it has one, wakes the others after it, and leaves with `conditionMet`;
when it fails, the waiter goes back to sleep, or at its deadline leaves with `timeout`; when it
aborts, the waiter leaves and nothing else changes. Every way out lowers the count of waiters by
one in the same critical section.
-/

namespace WaitGate

/-- The state under a gate's lock. -/
structure Gate (α : Type) where
  value : α
  enabled : Bool
  waiting : Nat

/-- A condition's answer on a value: it holds, it fails, or it aborts the wait. -/
inductive Verdict where
  | holds
  | fails
  | aborts
  deriving DecidableEq, Repr

/-- What a waiter waits for: a condition, and an action that changes the value when the
condition holds. -/
structure Request (α : Type) where
  check : α → Verdict
  action : Option (α → α) := none

/-- The wake-ups a critical section sends when it ends. -/
structure Wakes where
  /-- Every thread asleep in a wait wakes. -/
  waiters : Bool := false
  /-- A thread draining the gate wakes. -/
  drainer : Bool := false
  deriving DecidableEq, Repr

/-- How a waiter's look at the gate ends. -/
inductive Look where
  /-- It leaves the wait with an outcome. -/
  | leave (o : Outcome)
  /-- Its condition aborted; it leaves the wait. -/
  | abort
  /-- It goes to sleep until a change wakes it. -/
  | sleep
  deriving DecidableEq, Repr

namespace Gate

variable {α : Type}

/-- Replace the value; wakes the waiters. -/
def set (g : Gate α) (v : α) : Gate α × Wakes := ({ g with value := v }, { waiters := true })

/-- Change the value by a function; wakes the waiters. -/
def update (g : Gate α) (f : α → α) : Gate α × Wakes :=
  ({ g with value := f g.value }, { waiters := true })

/-- Enable the gate; wakes nobody. -/
def enable (g : Gate α) : Gate α := { g with enabled := true }

/-- Disable the gate; wakes the waiters. -/
def disable (g : Gate α) : Gate α × Wakes := ({ g with enabled := false }, { waiters := true })

/-- A waiter leaves: the count drops, and a disabled gate left without waiters wakes the
drainer. -/
def leave (g : Gate α) : Gate α × Wakes :=
  let g' := { g with waiting := g.waiting - 1 }
  (g', { drainer := g'.waiting == 0 && !g'.enabled })

/-- A waiter's look at the gate inside its critical section; `last` when its deadline has passed. -/
def look (g : Gate α) (r : Request α) (last : Bool) : Gate α × Look × Wakes :=
  if !g.enabled then
    let (g', w) := g.leave
    (g', .leave .disabled, w)
  else
    match r.check g.value with
    | .aborts =>
      let (g', w) := g.leave
      (g', .abort, w)
    | .holds =>
      match r.action with
      | some f =>
        let (g', w) := { g with value := f g.value }.leave
        (g', .leave .conditionMet, { w with waiters := true })
      | none =>
        let (g', w) := g.leave
        (g', .leave .conditionMet, w)
    | .fails =>
      if last then
        let (g', w) := g.leave
        (g', .leave .timeout, w)
      else (g, .sleep, {})

/-- A thread enters a wait: it is counted, then looks. -/
def enter (g : Gate α) (r : Request α) (last : Bool) : Gate α × Look × Wakes :=
  look { g with waiting := g.waiting + 1 } r last

end Gate

end WaitGate
