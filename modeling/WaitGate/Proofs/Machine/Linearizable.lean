import WaitGate.Proofs.Machine.Steps
/-!
# Every call takes effect at one point

The gate is linearizable: however the threads interleave, each call acts on the value and the
flag in one critical section inside the call, and does there what the gate as one atomic object,
`Op.atomic`, does to the state it finds.

A run records the *effect* of a call at the step where the call stops being pending: the thread,
its operation, the gate it found, whether the step is the deadline of a wait, the value and the
flag it left, and the reply. The effects of a run, in order, are its `history`.

## Strategy

`Pc.Moves.effect` already says, kind of step by kind of step, that a step either leaves the value
and the flag alone with the stepping thread's call still pending (or newly made), or ends that
call as the atomic gate would. `step_effect` reads this on the machine: the first kind of step
records nothing, the second records an effect taken on the gate found. By induction on the run,
`exec_sequential` chains the effects into a `Sequential` history of the atomic gate from the first
value and flag to the last: nothing else changed them.
-/

namespace WaitGate

variable {α : Type}

/-! ## Effects and histories -/

/-- A call taking effect: the thread, its operation, the gate it found, whether it was at the
deadline of a wait, the value and the flag it left, and the reply. -/
structure Effect (α : Type) where
  thread : Nat
  op : Op α
  gate : Gate α
  expired : Bool
  value : α
  enabled : Bool
  reply : Reply α

namespace Machine

/-- The effect that thread `t`'s step from `m` to `m'` by act `a` records: the call `t` had pending,
if the step ends it. -/
def effect? (m m' : Machine α) (t : Nat) (a : Act α) : Option (Effect α) :=
  match m.pending t, m'.pending t, m'.threads[t]?.bind Pc.reply? with
  | some op, none, some reply =>
    some
      { thread := t
        op := op
        gate := m.gate
        expired := a.expires
        value := m'.gate.value
        enabled := m'.gate.enabled
        reply := reply }
  | _, _, _ => none

/-- The effects a run records, in the order of its steps. -/
def history (m : Machine α) : List (Nat × Act α) → List (Effect α)
  | [] => []
  | (t, a) :: rest =>
    match m.step t a with
    | some m' => (m.effect? m' t a).toList ++ m'.history rest
    | none => []

@[simp] theorem history_nil (m : Machine α) : m.history [] = [] := rfl

theorem history_cons_of_step {m m' : Machine α} {t : Nat} {a : Act α}
    (h : m.step t a = some m') (rest : List (Nat × Act α)) :
    m.history ((t, a) :: rest) = (m.effect? m' t a).toList ++ m'.history rest := by
  simp [history, h]

/-- The history of a run that goes through `m₁` is the history up to `m₁`, then the history
from it. -/
theorem history_append {m m₁ : Machine α} {first : List (Nat × Act α)}
    (h : m.exec first = some m₁) (rest : List (Nat × Act α)) :
    m.history (first ++ rest) = m.history first ++ m₁.history rest := by
  induction first generalizing m with
  | nil =>
    cases h
    rfl
  | cons s first ih =>
    obtain ⟨t, a⟩ := s
    obtain ⟨m₂, hstep, hrest⟩ := exec_cons_eq_some.mp h
    rw [List.cons_append, history_cons_of_step hstep, history_cons_of_step hstep, ih hrest,
      List.append_assoc]

end Machine

/-- A list of effects is a run of the atomic gate from one value and flag to another: each effect
starts from the value and the flag the one before it left, and does what `Op.atomic` does. -/
inductive Sequential : α × Bool → List (Effect α) → α × Bool → Prop
  | nil (s : α × Bool) : Sequential s [] s
  | cons {e : Effect α} {es : List (Effect α)} {s' : α × Bool}
      (hatomic : e.op.atomic e.gate e.expired = some (e.value, e.enabled, e.reply))
      (rest : Sequential (e.value, e.enabled) es s') :
      Sequential (e.gate.value, e.gate.enabled) (e :: es) s'

/-! ## One step -/

namespace Machine

variable {m m' : Machine α} {t : Nat} {a : Act α}

/-- A step either records no effect and leaves the value and the flag alone, or records the effect
of the stepping thread's call, taken on the gate the step found, as the atomic gate takes it. -/
theorem step_effect (h : m.step t a = some m') :
    (m.effect? m' t a = none ∧ m'.gate.value = m.gate.value ∧
      m'.gate.enabled = m.gate.enabled) ∨
    ∃ e, m.effect? m' t a = some e ∧ e.gate = m.gate ∧ e.value = m'.gate.value ∧
      e.enabled = m'.gate.enabled ∧
      e.op.atomic e.gate e.expired = some (e.value, e.enabled, e.reply) := by
  obtain ⟨pc, turn, hpc, hmove, rfl⟩ := step_moves h
  have hbefore : m.pending t = pc.pending := by simp [pending, hpc]
  have hafter := pending_apply_self hpc turn
  have hreply : (m.apply t turn).threads[t]?.bind Pc.reply? = turn.pc.reply? := by
    simp [getElem?_apply_self hpc]
  rcases hmove.effect with ⟨hvalue, hflag, hpending⟩ | ⟨op, reply, hop, hdone, hr, hatomic⟩
  · -- the call is still pending, or has just been made: nothing to record
    refine .inl ⟨?_, hvalue, hflag⟩
    simp only [effect?, hbefore, hafter]
    rcases hpending with hsame | ⟨hnone, op, -, hcall⟩
    · rw [hsame]
      cases pc.pending <;> rfl
    · rw [hnone]
  · -- the step ends the call
    refine .inr ⟨
      { thread := t, op := op, gate := m.gate, expired := a.expires, value := turn.gate.value,
        enabled := turn.gate.enabled, reply := reply }, ?_, rfl, rfl, rfl, hatomic⟩
    simp only [effect?, hbefore, hafter, hreply, hop, hdone, hr]
    rfl

/-! ## Whole runs -/

/-- The effects of a run are a run of the atomic gate, from the value and the flag it starts on to
the ones it ends on. -/
theorem exec_sequential {steps : List (Nat × Act α)} (h : m.exec steps = some m') :
    Sequential (m.gate.value, m.gate.enabled) (m.history steps)
      (m'.gate.value, m'.gate.enabled) := by
  induction steps generalizing m with
  | nil =>
    cases h
    exact .nil _
  | cons s rest ih =>
    obtain ⟨t, a⟩ := s
    obtain ⟨m₁, hstep, hrest⟩ := exec_cons_eq_some.mp h
    rw [history_cons_of_step hstep]
    rcases step_effect hstep with
      ⟨hnone, hvalue, hflag⟩ | ⟨e, hsome, hgate, hvalue, hflag, hatomic⟩
    · -- nothing recorded, and the next step starts where this one did
      rw [hnone, Option.toList_none, List.nil_append, ← hvalue, ← hflag]
      exact ih hrest
    · rw [hsome, Option.toList_some, List.singleton_append, ← hgate]
      have hrun := ih hrest
      rw [← hvalue, ← hflag] at hrun
      exact .cons hatomic hrun

/-- A run of two threads on a counter at zero: the first waits to take a unit and falls asleep,
the second raises the count by one, and the first wakes and takes the unit. -/
def raiseThenTake : List (Nat × Act Count) :=
  [(0, .invoke (Op.takeOne false)), (0, .run), (1, .invoke (Op.shift false Count.one)), (1, .run),
    (0, .run)]

/-- The raise takes effect, then the take. -/
example : Sequential (Count.zero, true) ((Machine.init Count.zero true 2).history raiseThenTake)
    (Count.zero, true) := by
  have h : (Machine.init Count.zero true 2).exec raiseThenTake = some _ := rfl
  exact exec_sequential h

/-- Every call takes effect at one point. In every step, either no call takes effect and the value
and the flag stay as they were, or the stepping thread's pending call ends there, as the gate taken
as one atomic object does it on the state the step found: a write changes only the value, enabling
or disabling only the flag, and a wait is disabled when the gate is, meets its condition (applying
its action) when the condition holds, and times out at its deadline when it fails, all from that
one state. Over every run, the calls that take effect, in order, form a run of that atomic gate
from the first value and flag to the last. -/
theorem calls_take_effect_atomically (m : Machine α) :
    (∀ t a m', m.step t a = some m' →
      (m.effect? m' t a = none ∧ m'.gate.value = m.gate.value ∧
        m'.gate.enabled = m.gate.enabled) ∨
      ∃ e, m.effect? m' t a = some e ∧ e.gate = m.gate ∧ e.value = m'.gate.value ∧
        e.enabled = m'.gate.enabled ∧
        e.op.atomic e.gate e.expired = some (e.value, e.enabled, e.reply)) ∧
    (∀ steps m', m.exec steps = some m' →
      Sequential (m.gate.value, m.gate.enabled) (m.history steps)
        (m'.gate.value, m'.gate.enabled)) :=
  ⟨fun _ _ _ h => step_effect h, fun _ _ h => exec_sequential h⟩

end Machine

end WaitGate
