import WaitGate.Gate.Describe
import WaitGate.Gate.Notice
import WaitGate.Config
import WaitGate.Sink
/-!
# Sessions

A session is one gate driven by a controlling thread, with numbered background threads waiting on
it. The controller issues commands one at a time. After each, every woken background waiter
takes its look at the gate, the lowest number first, until none is left awake; a waiter whose
action changed the value wakes all the others again. This is the *settled* state, from which the
next command starts.

A settled session has no woken waiter. Each look either ends a waiter or puts a woken one back to
sleep, and only the end of a waiter can wake the others, so settling takes at most
`(n + 1) ^ 2` looks for `n` waiters.

The lines a sink keeps during a command are collected for that command; lines for the
process-wide subscriber go to the console instead.
-/

namespace WaitGate

/-- How a background waiter ended. -/
inductive Ending where
  | outcome (o : Outcome)
  | panicked
  deriving DecidableEq, Repr

/-- Where a background waiter stands: asleep in its wait, woken or not, or ended. -/
inductive Phase (α : Type) where
  | asleep (r : Request α) (woken : Bool)
  | ended (e : Ending)

/-- A background waiter and its number. -/
structure Waiter (α : Type) where
  id : Nat
  phase : Phase α

/-- A gate, its configuration and sink, and the background waiters not yet joined, by
ascending number. -/
structure Session (α : Type) where
  gate : Gate α
  config : Config
  sink : Sink
  appearance : Appearance α
  waiters : List (Waiter α) := []
  /-- The number the next background waiter gets. -/
  nextId : Nat := 0
  /-- Lines kept by the sink during the current command, in order. -/
  kept : List (Level × String) := []
  /-- Lines written to the console by the process-wide subscriber, in order. -/
  console : List (Level × String) := []

namespace Waiter

variable {α : Type}

/-- Wake a waiter that is asleep. -/
def wake (w : Waiter α) : Waiter α :=
  match w.phase with
  | .asleep r _ => { w with phase := .asleep r true }
  | .ended _ => w

/-- Whether a waiter is asleep and woken. -/
def woken (w : Waiter α) : Bool :=
  match w.phase with
  | .asleep _ b => b
  | .ended _ => false

/-- The phase a waiter reaches by a look. -/
def after (r : Request α) : Look → Phase α
  | .sleep => .asleep r false
  | .leave o => .ended (.outcome o)
  | .abort => .ended .panicked

end Waiter

/-- The first woken waiter takes its look: the gate after it, the waiters, and whether the look
woke the others. `none` when no waiter is woken. -/
def lookFirstWoken {α : Type} (g : Gate α) : List (Waiter α) → Option (Gate α × List (Waiter α) × Bool)
  | [] => none
  | w :: ws =>
    match w.phase with
    | .asleep r true =>
      let (g', l, wk) := g.look r false
      some (g', { w with phase := Waiter.after r l } :: ws, wk.waiters)
    | _ => (lookFirstWoken g ws).map fun (g', ws', b) => (g', w :: ws', b)

/-- Let woken waiters look, lowest number first, until none is woken; at most `fuel` looks. -/
def settleWith {α : Type} : Nat → Gate α → List (Waiter α) → Gate α × List (Waiter α)
  | 0, g, ws => (g, ws)
  | fuel + 1, g, ws =>
    match lookFirstWoken g ws with
    | none => (g, ws)
    | some (g', ws', wakesAll) => settleWith fuel g' (if wakesAll then ws'.map Waiter.wake else ws')

namespace Session

variable {α : Type}

/-- A session on a gate, before any command. -/
def start (g : Gate α) (config : Config) (sink : Sink) (appearance : Appearance α) : Session α :=
  { gate := g, config, sink, appearance }

/-- Wake every asleep waiter when `wakes` says so. -/
def wakeIf (s : Session α) (wakes : Bool) : Session α :=
  if wakes then { s with waiters := s.waiters.map Waiter.wake } else s

/-- Let every woken waiter look until the session is settled. -/
def settle (s : Session α) : Session α :=
  let (g, ws) := settleWith ((s.waiters.length + 1) * (s.waiters.length + 1)) s.gate s.waiters
  { s with gate := g, waiters := ws }

/-- Offer a notice to the sink, as one emit: the process-wide subscriber writes what it logs to
the console, and any other sink keeps it for the command. -/
def offer (s : Session α) (n : Notice) : Session α :=
  let lines := s.sink.emit s.config.label n
  match s.sink with
  | .ambient _ => { s with console := s.console ++ lines }
  | _ => { s with kept := s.kept ++ lines }

/-- The text of the gate in diagnostics. -/
def describe (s : Session α) (locked isPretty : Bool) : String :=
  (describeGate s.appearance s.config.label (if locked then none else some s.gate)).render isPretty

end Session

end WaitGate
