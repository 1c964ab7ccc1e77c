import WaitGate.Gate.Notice
import WaitGate.Session.Kinds
/-!
# Threads on a gate

The functions of `Gate` are the gate's critical sections; here threads run them. Each thread stands
at a point of the operation it has called, and one step of a thread is one of:

* a whole critical section: everything it does between taking the gate's lock and releasing it,
  sleeping on a condition included, since a sleep releases the lock;
* a move outside the lock: calling an operation, or handing a notice to the sink.

A thread asleep inside a wait (on the gate's `changed` condition) or inside a draining disable (on
`drained`) carries a flag that the wake-ups of other threads set. It takes the lock again only
once woken (`run`), or, still unwoken, when its deadline or drain check interval passes
(`expire`). Time itself is not modelled: a deadline may pass whenever its thread sleeps unwoken.

A wait enters, counted as a waiter, and looks at the gate in one critical section; it sleeps while
its condition fails and looks again when woken, and a look at its deadline is its last. A draining
disable disables the gate in one critical section; if it found waiters it announces the drain and
then checks, each time in a critical section of its own and asleep on `drained` in between,
until nobody is left, the gate is enabled again, or a check interval passes, after which it wakes
the waiters again and warns. Counter arithmetic changes the value in one critical section and
hands its warning to the sink after it.

The machine runs any number of threads in any order: a run is a list of thread steps, each a
thread's number and what it does.
-/

namespace WaitGate

/-- An operation a thread calls on a gate. -/
inductive Op (α : Type) where
  /-- Read the value (`value`, `with_value`). -/
  | read
  | isEnabled
  | waitingCount
  | set (v : α)
  /-- Change the value by a function; the reply is the value before. -/
  | update (f : α → α)
  /-- Change the value by `delta` through `arith`, which also gives the notice to hand to the
  sink, if any: the raising and lowering of a counter. -/
  | adjust (delta : α) (arith : α → α → α × Option Notice)
  | enable
  | disable
  /-- Disable the gate and wait until nobody is inside a wait (`blocking_disable`). -/
  | drain
  /-- Wait for a request; `timed` when the wait has a deadline. -/
  | wait (r : Request α) (timed : Bool)

/-- Where a thread stands. -/
inductive Pc (α : Type) where
  /-- It has called nothing yet. -/
  | idle
  /-- It has called an operation and not yet taken the lock for it. -/
  | call (op : Op α)
  /-- It is asleep inside a wait on `changed`; `woken` once a wake-up has reached it. -/
  | parked (r : Request α) (timed woken : Bool)
  /-- A draining disable about to take the lock and check whether the drain is over. -/
  | recheck
  /-- A draining disable asleep on `drained`. -/
  | draining (woken : Bool)
  /-- It hands a notice to the sink, the lock released; then the drain goes on with a check when
  `more`, and otherwise the call returns. -/
  | emit (n : Notice) (more : Bool)
  /-- Its last operation returned this reply. -/
  | returned (r : Reply α)

/-- What a thread does in one step. -/
inductive Act (α : Type) where
  /-- Call an operation. -/
  | invoke (op : Op α)
  /-- Go on: the next critical section, or the next move outside the lock. -/
  | run
  /-- Take the lock at its deadline or drain check interval, asleep and not woken. -/
  | expire

/-- One step of a thread: the gate after it, where the thread goes, the wake-ups it sends, and the
notice it hands to the sink. -/
structure Turn (α : Type) where
  gate : Gate α
  pc : Pc α
  wakes : Wakes := {}
  notice : Option Notice := none

namespace Pc

variable {α : Type}

/-- Where a waiter goes after a look at the gate. -/
def ofLook (r : Request α) (timed : Bool) : Look → Pc α
  | .leave o => returned (.outcome o)
  | .abort => returned .panicked
  | .sleep => parked r timed false

/-- Return, after handing a notice to the sink if there is one. -/
def announce : Option Notice → Pc α
  | some n => emit n false
  | none => returned .none

/-- The check of a draining disable: over when nobody is inside a wait, given up when the gate was
enabled again, and otherwise asleep on `drained`. -/
def drainCheck (g : Gate α) : Pc α :=
  if g.waiting = 0 then emit .drained false
  else if g.enabled then emit (.abandoned g.waiting) false
  else draining false

/-- A wake-up reaching a thread: one asleep on the condition it signals is woken. -/
def wake (w : Wakes) : Pc α → Pc α
  | parked r timed woken => parked r timed (woken || w.waiters)
  | draining woken => draining (woken || w.drainer)
  | pc => pc

/-- The operation a thread has called that has not taken effect yet. -/
def pending : Pc α → Option (Op α)
  | call op => some op
  | parked r timed _ => some (.wait r timed)
  | _ => none

/-- The reply of a thread's call, once its operation has taken effect. -/
def reply? : Pc α → Option (Reply α)
  | returned r => some r
  | emit .. | recheck | draining _ => some .none
  | _ => none

/-- Whether a thread is inside a wait, counted among the gate's waiters. -/
def inWait : Pc α → Bool
  | parked .. => true
  | _ => false

@[simp] theorem pending_wake (w : Wakes) (pc : Pc α) : (pc.wake w).pending = pc.pending := by
  cases pc <;> rfl

@[simp] theorem inWait_wake (w : Wakes) (pc : Pc α) : (pc.wake w).inWait = pc.inWait := by
  cases pc <;> rfl

@[simp] theorem reply?_wake (w : Wakes) (pc : Pc α) : (pc.wake w).reply? = pc.reply? := by
  cases pc <;> rfl

@[simp] theorem wake_empty (pc : Pc α) : pc.wake {} = pc := by
  cases pc <;> simp [wake]

end Pc

/-- A waiter's look at the gate as a turn; `last` at its deadline. -/
def Turn.look {α : Type} (g : Gate α) (r : Request α) (timed last : Bool) : Turn α :=
  let (g', l, w) := g.look r last
  { gate := g', pc := Pc.ofLook r timed l, wakes := w }

/-- The critical section an operation starts with. -/
def Op.start {α : Type} (g : Gate α) : Op α → Turn α
  | .read => { gate := g, pc := .returned (.value g.value) }
  | .isEnabled => { gate := g, pc := .returned (.flag g.enabled) }
  | .waitingCount => { gate := g, pc := .returned (.number g.waiting) }
  | .set v =>
    let (g', w) := g.set v
    { gate := g', pc := .returned .none, wakes := w }
  | .update f =>
    let (g', w) := g.update f
    { gate := g', pc := .returned (.value g.value), wakes := w }
  | .adjust d arith =>
    let (g', w) := g.update fun v => (arith v d).1
    { gate := g', pc := Pc.announce (arith g.value d).2, wakes := w }
  | .enable => { gate := g.enable, pc := .returned .none }
  | .disable =>
    let (g', w) := g.disable
    { gate := g', wakes := w,
      pc := Pc.announce
        (if 0 < g'.waiting then some (.disabledWhileWaiting g'.waiting) else none) }
  | .drain =>
    let (g', w) := g.disable
    { gate := g', wakes := w,
      pc := if g'.waiting = 0 then .returned .none else .emit (.draining g'.waiting) true }
  | .wait r timed =>
    let (g', l, w) := g.enter r false
    { gate := g', pc := Pc.ofLook r timed l, wakes := w }

/-- One step of a thread standing at `pc`, on gate `g`; `none` when the thread cannot do `a`. -/
def Pc.step {α : Type} (g : Gate α) : Pc α → Act α → Option (Turn α)
  | .idle, .invoke op | .returned _, .invoke op => some { gate := g, pc := .call op }
  | .call op, .run => some (op.start g)
  | .parked r timed true, .run => some (Turn.look g r timed false)
  | .parked r true false, .expire => some (Turn.look g r true true)
  | .recheck, .run | .draining true, .run => some { gate := g, pc := Pc.drainCheck g }
  | .draining false, .expire =>
    -- the interval passed: waiters still inside a disabled gate are woken again, with a warning
    if 0 < g.waiting ∧ g.enabled = false then
      some { gate := g, pc := .emit (.stillPending g.waiting) true, wakes := { waiters := true } }
    else some { gate := g, pc := Pc.drainCheck g }
  | .emit n more, .run =>
    some { gate := g, pc := if more then .recheck else .returned .none, notice := some n }
  | _, _ => none

/-- Threads on a gate: the gate, each thread's point by its number, and the notices handed to the
sink so far, each with the thread that handed it. -/
structure Machine (α : Type) where
  gate : Gate α
  threads : List (Pc α)
  offered : List (Nat × Notice) := []

namespace Machine

variable {α : Type}

/-- A gate fresh from its constructor, with `n` threads that have called nothing. -/
def init (v : α) (enabled : Bool) (n : Nat) : Machine α :=
  { gate := ⟨v, enabled, 0⟩, threads := List.replicate n .idle }

/-- Carry out thread `t`'s turn: its wake-ups reach every thread, then `t` moves. -/
def apply (m : Machine α) (t : Nat) (turn : Turn α) : Machine α :=
  { gate := turn.gate
    threads := (m.threads.map (Pc.wake turn.wakes)).set t turn.pc
    offered := m.offered ++ (turn.notice.map (t, ·)).toList }

/-- A step of thread `t`; `none` when there is no such thread or it cannot do `a`. -/
def step (m : Machine α) (t : Nat) (a : Act α) : Option (Machine α) :=
  match m.threads[t]? with
  | some pc => (pc.step m.gate a).map (m.apply t)
  | none => none

/-- Take the steps of a run in order. -/
def exec (m : Machine α) : List (Nat × Act α) → Option (Machine α)
  | [] => some m
  | (t, a) :: rest => (m.step t a).bind (·.exec rest)

/-- The operation thread `t` has called that has not taken effect yet. -/
def pending (m : Machine α) (t : Nat) : Option (Op α) := m.threads[t]?.bind Pc.pending

/-- The lines a sink logs from the notices handed to it, each with the thread that handed it over:
every hand-over is one emit under the gate's label. -/
def logged (m : Machine α) (s : Sink) (label : String) : List (Nat × Level × String) :=
  m.offered.flatMap fun p => (s.emit label p.2).map (p.1, ·)

/-- The machines that runs from a fresh gate reach. -/
inductive Reachable : Machine α → Prop
  | fresh (v : α) (enabled : Bool) (n : Nat) : Reachable (init v enabled n)
  | step {m m' : Machine α} {t : Nat} {a : Act α} :
      Reachable m → m.step t a = some m' → Reachable m'

@[simp] theorem apply_gate (m : Machine α) (t : Nat) (turn : Turn α) :
    (m.apply t turn).gate = turn.gate := rfl

theorem apply_self {m : Machine α} {t : Nat} (ht : t < m.threads.length) (turn : Turn α) :
    (m.apply t turn).threads[t]? = some turn.pc := by
  simp [apply, ht]

theorem apply_other (m : Machine α) {t u : Nat} (hu : u ≠ t) (turn : Turn α) :
    (m.apply t turn).threads[u]? = m.threads[u]?.map (Pc.wake turn.wakes) := by
  simp [apply, List.getElem?_set_ne (Ne.symm hu)]

@[simp] theorem exec_nil (m : Machine α) : m.exec [] = some m := rfl

theorem exec_cons (m : Machine α) (t : Nat) (a : Act α) (rest : List (Nat × Act α)) :
    m.exec ((t, a) :: rest) = (m.step t a).bind (·.exec rest) := rfl

/-- What a step is: a thread that stands somewhere and can do the act, and its turn carried out. -/
theorem step_eq_some {m m' : Machine α} {t : Nat} {a : Act α} :
    m.step t a = some m' ↔
      ∃ pc turn, m.threads[t]? = some pc ∧ pc.step m.gate a = some turn ∧
        m' = m.apply t turn := by
  unfold step
  cases hpc : m.threads[t]? with
  | none => simp
  | some pc =>
    constructor
    · intro h
      obtain ⟨turn, hturn, rfl⟩ := Option.map_eq_some_iff.mp h
      exact ⟨pc, turn, rfl, hturn, rfl⟩
    · rintro ⟨_, turn, ⟨⟩, hturn, rfl⟩
      simp [hturn]

end Machine

/-! ## Counter operations -/

/-- Raising (`lowering = false`) or lowering a count by `d`, clamped, with the counter's warning
when it clamps. -/
def Op.shift (lowering : Bool) (d : Count) : Op Count :=
  .adjust d fun v d => CounterCommand.shift lowering d v

/-- Waiting for a positive count and taking one unit in the same critical section
(`wait_and_decrement`). -/
def Op.takeOne (timed : Bool) : Op Count := .wait CounterCommand.takeOne timed

end WaitGate
