import WaitGate.Session.Basic
/-!
# Commands of a session

The controller's commands: reading and changing the gate, enabling and disabling it, waiting on
it, describing it, and joining background waiters.

A wait runs in one of two modes. A short wait (a timeout of 100 ms or less) runs on the
controller itself: nothing else can change the gate meanwhile, so a condition that fails at once
still fails at the deadline, and the wait ends with `timeout`. A long wait (no timeout, or one of
an hour or more) runs on a new background waiter with the next number; if it ends at once its
outcome is the reply and it is not kept, and otherwise the reply is its number. A timeout between
the two would make the answer depend on time, and is refused.

A draining disable disables the gate, offers `draining N waiting threads` when it found waiters,
lets them all leave, and then offers `drained in …`.
-/

namespace WaitGate

/-- Where a wait runs. -/
inductive Mode where
  | inline
  | background
  deriving DecidableEq, Repr

/-- The longest timeout of a wait run on the controller, in nanoseconds: 100 ms. -/
def Mode.inlineLimit : Nat := 100000000

/-- The shortest timeout of a wait run in the background, in nanoseconds: one hour. -/
def Mode.backgroundFrom : Nat := 3600000000000

/-- Where a wait with a timeout (`none` for none) runs; `none` for a timeout that neither mode
takes. -/
def Mode.ofTimeout? : Option Span → Option Mode
  | none => some .background
  | some d =>
    if d.toNanos ≤ inlineLimit then some .inline
    else if backgroundFrom ≤ d.toNanos then some .background
    else none

/-- A reply to a command. -/
inductive Reply (α : Type) where
  | none
  | flag (b : Bool)
  | number (n : Nat)
  | value (v : α)
  | text (s : String)
  | outcome (o : Outcome)
  | panicked
  | spawned (id : Nat)
  | blocked

/-- Why a command failed. -/
inductive Fault where
  /-- The condition of a wait on the controller aborted. -/
  | predicatePanicked
  /-- No background waiter with this number is left to join. -/
  | unknownThread (id : Nat)
  /-- The command could not be read. -/
  | malformed (why : String)
  deriving DecidableEq, Repr

/-- A command of the controller. -/
inductive Command (α : Type) where
  | enable
  | disable
  | drain
  | isEnabled
  | read
  | waitingCount
  | describe (isPretty : Bool)
  | describeLocked (isPretty : Bool)
  | wait (r : Request α) (mode : Mode)
  /-- Change the value; the reply is the value before. -/
  | update (f : α → α)
  /-- Change the value, then offer a notice if the change gives one. -/
  | adjust (f : α → α × Option Notice)
  /-- Reply with something read from the value. -/
  | inspect (f : α → Reply α)
  | join (id : Nat)
  | set (v : α)

namespace Session

variable {α : Type}

/-- Put a new gate in place, wake the waiters if it says so, and settle. -/
def changeGate (s : Session α) (g : Gate α) (w : Wakes) : Session α :=
  ({ s with gate := g }.wakeIf w.waiters).settle

/-- A wait on the controller: a look on entry, and at the deadline a last one. -/
def waitInline (s : Session α) (r : Request α) : Except Fault (Reply α) × Session α :=
  let (g, l, w) := s.gate.enter r false
  let (g, l, w) := match l with
    | .sleep => g.look r true
    | _ => (g, l, w)
  let s := s.changeGate g w
  match l with
  | .leave o => (.ok (.outcome o), s)
  | .abort => (.error .predicatePanicked, s)
  | .sleep => (.ok (.outcome .timeout), s)

/-- A wait on a new background waiter, which looks on entry and sleeps if it cannot leave. -/
def waitBackground (s : Session α) (r : Request α) : Except Fault (Reply α) × Session α :=
  let id := s.nextId
  let s := { s with nextId := id + 1 }
  let (g, l, w) := s.gate.enter r false
  match l with
  | .sleep =>
    (.ok (.spawned id), { s with gate := g, waiters := s.waiters ++ [⟨id, .asleep r false⟩] })
  | .leave o => (.ok (.outcome o), s.changeGate g w)
  | .abort => (.ok .panicked, s.changeGate g w)

/-- Join a background waiter: its ending, which removes it, or `blocked` while it sleeps. -/
def join (s : Session α) (id : Nat) : Except Fault (Reply α) × Session α :=
  match s.waiters.find? (·.id = id) with
  | none => (.error (.unknownThread id), s)
  | some w =>
    match w.phase with
    | .asleep _ _ => (.ok .blocked, s)
    | .ended e =>
      let s := { s with waiters := s.waiters.filter (·.id ≠ id) }
      match e with
      | .outcome o => (.ok (.outcome o), s)
      | .panicked => (.ok .panicked, s)

/-- Disable the gate and let the waiters leave; the count found is returned too. -/
def disableAll (s : Session α) : Nat × Session α :=
  let (g, w) := s.gate.disable
  (g.waiting, s.changeGate g w)

/-- Carry out one command. -/
def exec (s : Session α) : Command α → Except Fault (Reply α) × Session α
  | .enable => (.ok .none, { s with gate := s.gate.enable })
  | .disable =>
    let (n, s) := s.disableAll
    (.ok .none, if n > 0 then s.offer (.disabledWhileWaiting n) else s)
  | .drain =>
    let n := s.gate.waiting
    if n = 0 then (.ok .none, (s.disableAll).2)
    else
      let s := s.offer (.draining n)
      let (_, s) := s.disableAll
      (.ok .none, s.offer .drained)
  | .isEnabled => (.ok (.flag s.gate.enabled), s)
  | .read => (.ok (.value s.gate.value), s)
  | .waitingCount => (.ok (.number s.gate.waiting), s)
  | .describe p => (.ok (.text (s.describe false p)), s)
  | .describeLocked p => (.ok (.text (s.describe true p)), s)
  | .wait r .inline => s.waitInline r
  | .wait r .background => s.waitBackground r
  | .update f =>
    let before := s.gate.value
    let (g, w) := s.gate.update f
    (.ok (.value before), s.changeGate g w)
  | .adjust f =>
    let (v, notice) := f s.gate.value
    let (g, w) := s.gate.set v
    let s := s.changeGate g w
    (.ok .none, match notice with
      | some n => s.offer n
      | none => s)
  | .inspect f => (.ok (f s.gate.value), s)
  | .join id => s.join id
  | .set v =>
    let (g, w) := s.gate.set v
    (.ok .none, s.changeGate g w)

end Session

/-- One command's record: its reply or fault, the lines kept meanwhile, and the session after. -/
structure Entry (α : Type) where
  result : Except Fault (Reply α)
  lines : List (Level × String)
  after : Session α

namespace Session

variable {α : Type}

/-- Carry out one command, or record a command that could not be read, collecting its lines. -/
def step (s : Session α) (c : Except Fault (Command α)) : Entry α :=
  match c with
  | .error f => ⟨.error f, [], s⟩
  | .ok c =>
    let (r, s') := { s with kept := [] }.exec c
    ⟨r, s'.kept, { s' with kept := [] }⟩

/-- Carry out commands in order, each from the session the last one left. -/
def run (s : Session α) : List (Except Fault (Command α)) → List (Entry α)
  | [] => []
  | c :: cs =>
    let e := s.step c
    e :: run e.after cs

/-- The session after a list of commands. -/
def final (s : Session α) (cs : List (Except Fault (Command α))) : Session α :=
  ((s.run cs).getLast?.map (·.after)).getD s

/-- The session after its end: the gate is disabled, which lets every background waiter leave. -/
def close (s : Session α) : Session α := (s.exec .disable).2

end Session

end WaitGate
