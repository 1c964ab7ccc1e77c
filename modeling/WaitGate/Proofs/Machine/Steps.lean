import WaitGate.Machine.Basic
/-!
# What one step does

A thread's step is of one of eight kinds, `Pc.Moves`: calling an operation, the critical section
an operation starts with, a woken waiter's look, a waiter's last look at its deadline, a check of a
draining disable, a drain check interval passing (with or without waiters still inside a disabled
gate), and handing a notice to the sink. What later proofs need from a step is proved here once,
kind by kind:

* `Moves.effect`: the step leaves the value and the flag alone, or it is the one step in which the
  thread's pending operation takes effect, and then it does what the atomic gate `Op.atomic` does;
* `Moves.value_enabled`: it changes the value or the flag only while waking every waiter, or by
  enabling the gate;
* `Moves.waiting`: it changes the count of waiters by exactly the change in whether its own thread
  is inside a wait;
* `Moves.parked`: a thread it puts to sleep found the gate enabled and its condition failing.

The machine's steps carry these over; every other thread is only woken.
-/

namespace WaitGate

variable {α : Type}

/-! ## The atomic gate -/

/-- The value a request leaves when its condition holds: its action applied, if it has one. -/
def Request.apply (r : Request α) (v : α) : α :=
  match r.action with
  | some f => f v
  | none => v

/-- Whether an act is a wake-up at a deadline. -/
def Act.expires : Act α → Bool
  | .expire => true
  | _ => false

/-- The gate as one atomic object: what an operation does to the value and the flag when it takes
effect on gate `g`, with its reply; `expired` when it takes effect at its deadline. A wait on a
disabled gate is `disabled` whatever its condition; on an enabled one it meets its condition when
the condition holds, applying its action, and when the condition fails it times out, at a deadline
it has, or does not take effect at all (`none`). -/
def Op.atomic (g : Gate α) (expired : Bool) : Op α → Option (α × Bool × Reply α)
  | .read => some (g.value, g.enabled, .value g.value)
  | .isEnabled => some (g.value, g.enabled, .flag g.enabled)
  | .waitingCount => some (g.value, g.enabled, .number g.waiting)
  | .set v => some (v, g.enabled, .none)
  | .update f => some (f g.value, g.enabled, .value g.value)
  | .adjust d arith => some ((arith g.value d).1, g.enabled, .none)
  | .enable => some (g.value, true, .none)
  | .disable | .drain => some (g.value, false, .none)
  | .wait r timed =>
    if g.enabled then
      match r.check g.value with
      | .holds => some (r.apply g.value, true, .outcome .conditionMet)
      | .aborts => some (g.value, true, .panicked)
      | .fails => if timed && expired then some (g.value, true, .outcome .timeout) else none
    else some (g.value, false, .outcome .disabled)

/-- A wait's effect does not depend on how many waiters the gate counts. -/
@[simp] theorem Op.atomic_wait_waiting (g : Gate α) (n : Nat) (expired : Bool) (r : Request α)
    (timed : Bool) :
    (Op.wait r timed).atomic { g with waiting := n } expired = (Op.wait r timed).atomic g expired :=
  rfl

/-- A call that ends in a panic of its condition leaves the value and the flag as they were. -/
theorem Op.atomic_panicked {g : Gate α} {expired : Bool} {op : Op α} {v : α} {enabled : Bool}
    (h : op.atomic g expired = some (v, enabled, .panicked)) :
    v = g.value ∧ enabled = g.enabled := by
  cases op with
  | wait r timed =>
    simp only [Op.atomic] at h
    split at h
    · rename_i he
      -- only an aborting condition panics
      cases hc : r.check g.value with
      | aborts =>
        simp only [hc, Option.some.injEq, Prod.mk.injEq] at h
        exact ⟨h.1.symm, h.2.1.symm.trans he.symm⟩
      | holds => simp [hc] at h
      | fails => simp only [hc] at h; split at h <;> simp at h
    · simp at h
  | _ => simp [Op.atomic] at h

/-! ## A waiter's look -/

namespace Gate

variable (g : Gate α) (r : Request α) (last : Bool)

theorem look_of_disabled (h : g.enabled = false) :
    g.look r last = (g.leave.1, .leave .disabled, g.leave.2) := by
  simp [look, h]

theorem look_of_aborts (h : g.enabled = true) (hc : r.check g.value = .aborts) :
    g.look r last = (g.leave.1, .abort, g.leave.2) := by
  simp [look, h, hc]

theorem look_of_holds (h : g.enabled = true) (hc : r.check g.value = .holds) :
    g.look r last = ({ g with value := r.apply g.value }.leave.1, .leave .conditionMet,
      { { g with value := r.apply g.value }.leave.2 with waiters := r.action.isSome }) := by
  cases ha : r.action <;> simp [look, h, hc, ha, Request.apply, leave]

theorem look_of_fails (h : g.enabled = true) (hc : r.check g.value = .fails) :
    g.look r last = if last then (g.leave.1, .leave .timeout, g.leave.2) else (g, .sleep, {}) := by
  cases last <;> simp [look, h, hc]

end Gate

section

variable (g : Gate α) (r : Request α) (timed last : Bool)

/-- A look at a disabled gate returns disabled, without asking the condition. -/
theorem Turn.look_pc_of_disabled (h : g.enabled = false) :
    (Turn.look g r timed last).pc = .returned (.outcome .disabled) := by
  simp [Turn.look, Gate.look_of_disabled g r last h, Pc.ofLook]

/-- A look at an enabled gate whose condition holds returns that the condition was met. -/
theorem Turn.look_pc_of_holds (h : g.enabled = true) (hc : r.check g.value = .holds) :
    (Turn.look g r timed last).pc = .returned (.outcome .conditionMet) := by
  simp [Turn.look, Gate.look_of_holds g r last h hc, Pc.ofLook]

/-- A look at an enabled gate whose condition aborts returns the panic. -/
theorem Turn.look_pc_of_aborts (h : g.enabled = true) (hc : r.check g.value = .aborts) :
    (Turn.look g r timed last).pc = .returned .panicked := by
  simp [Turn.look, Gate.look_of_aborts g r last h hc, Pc.ofLook]

end

/-- The two ways a look ends: the waiter goes back to sleep on an enabled gate whose condition
fails, or it leaves, counted out, with the effect the atomic gate gives its wait, waking every
waiter if it changed the value. A last look comes only at a deadline the wait has. -/
theorem Turn.look_cases (g : Gate α) (r : Request α) (timed last : Bool)
    (hlast : last = true → timed = true) :
    (g.enabled = true ∧ r.check g.value = .fails ∧ last = false ∧
      Turn.look g r timed last = { gate := g, pc := .parked r timed false }) ∨
    ∃ v reply, (Op.wait r timed).atomic g last = some (v, g.enabled, reply) ∧
      (Turn.look g r timed last).gate = ⟨v, g.enabled, g.waiting - 1⟩ ∧
      (Turn.look g r timed last).pc = .returned reply ∧
      (v = g.value ∨ (Turn.look g r timed last).wakes.waiters = true) := by
  cases he : g.enabled
  · -- disabled: the condition is not asked
    refine .inr ⟨g.value, .outcome .disabled, by simp [Op.atomic, he], ?_,
      Turn.look_pc_of_disabled g r timed last he, .inl rfl⟩
    simp [Turn.look, Gate.look_of_disabled g r last he, Gate.leave, he]
  · cases hc : r.check g.value with
    | holds =>
      refine .inr ⟨r.apply g.value, .outcome .conditionMet, by simp [Op.atomic, he, hc],
        ?_, Turn.look_pc_of_holds g r timed last he hc, ?_⟩
      · simp [Turn.look, Gate.look_of_holds g r last he hc, Gate.leave, he]
      · -- the value changes only through an action, and an action wakes every waiter
        cases ha : r.action
        · exact .inl (by simp [Request.apply, ha])
        · exact .inr (by simp [Turn.look, Gate.look_of_holds g r last he hc, ha])
    | aborts =>
      refine .inr ⟨g.value, .panicked, by simp [Op.atomic, he, hc], ?_,
        Turn.look_pc_of_aborts g r timed last he hc, .inl rfl⟩
      simp [Turn.look, Gate.look_of_aborts g r last he hc, Gate.leave, he]
    | fails =>
      cases last
      · exact .inl ⟨rfl, rfl, rfl,
          by simp [Turn.look, Gate.look_of_fails g r false he hc, Pc.ofLook]⟩
      · have htimed := hlast rfl
        refine .inr ⟨g.value, .outcome .timeout, by simp [Op.atomic, he, hc, htimed],
          ?_, ?_, .inl rfl⟩ <;>
          simp [Turn.look, Gate.look_of_fails g r true he hc, Gate.leave, Pc.ofLook, he]

/-- A last look, at the deadline, always ends the wait. -/
theorem Turn.lastLook_leaves (g : Gate α) (r : Request α) :
    ∃ v reply, (Op.wait r true).atomic g true = some (v, g.enabled, reply) ∧
      (Turn.look g r true true).gate = ⟨v, g.enabled, g.waiting - 1⟩ ∧
      (Turn.look g r true true).pc = .returned reply ∧
      (v = g.value ∨ (Turn.look g r true true).wakes.waiters = true) := by
  rcases Turn.look_cases g r true true (fun _ => rfl) with ⟨-, -, hlast, -⟩ | hleave
  · cases hlast
  · exact hleave

/-! ## Where a step leaves a thread -/

namespace Pc

@[simp] theorem pending_drainCheck (g : Gate α) : (drainCheck g).pending = none := by
  unfold drainCheck
  split
  · rfl
  · split <;> rfl

@[simp] theorem inWait_drainCheck (g : Gate α) : (drainCheck g).inWait = false := by
  unfold drainCheck
  split
  · rfl
  · split <;> rfl

@[simp] theorem reply?_drainCheck (g : Gate α) : (drainCheck g).reply? = some .none := by
  unfold drainCheck
  split
  · rfl
  · split <;> rfl

@[simp] theorem pending_announce (n : Option Notice) : (announce n : Pc α).pending = none := by
  cases n <;> rfl

@[simp] theorem inWait_announce (n : Option Notice) : (announce n : Pc α).inWait = false := by
  cases n <;> rfl

@[simp] theorem reply?_announce (n : Option Notice) : (announce n : Pc α).reply? = some .none := by
  cases n <;> rfl

end Pc

theorem Op.start_wait (g : Gate α) (r : Request α) (timed : Bool) :
    (Op.wait r timed).start g = Turn.look { g with waiting := g.waiting + 1 } r timed false :=
  rfl

/-- The critical section an operation starts with either leaves a wait asleep, with the value and
the flag as they were, or is where the operation takes effect. -/
theorem Op.start_effect (g : Gate α) (op : Op α) :
    ((op.start g).gate.value = g.value ∧ (op.start g).gate.enabled = g.enabled ∧
      (op.start g).pc.pending = some op) ∨
    ∃ reply, (op.start g).pc.pending = none ∧ (op.start g).pc.reply? = some reply ∧
      op.atomic g false = some ((op.start g).gate.value, (op.start g).gate.enabled, reply) := by
  cases op with
  | wait r timed =>
    rw [Op.start_wait]
    rcases Turn.look_cases { g with waiting := g.waiting + 1 } r timed false (by simp) with
      ⟨-, -, -, hlook⟩ | ⟨v, reply, hatomic, hgate, hpc, -⟩
    · exact .inl (by simp [hlook, Pc.pending])
    · refine .inr ⟨reply, by simp [hpc, Pc.pending], by simp [hpc, Pc.reply?], ?_⟩
      simpa [hgate] using hatomic
  | adjust d arith => exact .inr ⟨.none, by simp [Op.start], by simp [Op.start], rfl⟩
  | disable => exact .inr ⟨.none, by simp [Op.start], by simp [Op.start], rfl⟩
  | drain =>
    refine .inr ⟨.none, ?_, ?_, rfl⟩ <;> simp only [Op.start] <;> split <;> rfl
  | read | isEnabled | waitingCount | set | update | enable => exact .inr ⟨_, rfl, rfl, rfl⟩

/-! ## The kinds of step -/

namespace Pc

/-- The steps a thread can take, one constructor for each kind. -/
inductive Moves (g : Gate α) : Pc α → Act α → Turn α → Prop
  /-- A thread that has called nothing, or whose last call returned, calls an operation. -/
  | invoke {pc : Pc α} (op : Op α) (hpc : pc = idle ∨ ∃ r, pc = returned r) :
      Moves g pc (.invoke op) { gate := g, pc := call op }
  /-- The critical section an operation starts with. -/
  | start (op : Op α) : Moves g (call op) .run (op.start g)
  /-- A woken waiter takes the lock and looks again. -/
  | wake (r : Request α) (timed : Bool) :
      Moves g (parked r timed true) .run (Turn.look g r timed false)
  /-- A waiter still asleep at its deadline takes its last look. -/
  | expire (r : Request α) : Moves g (parked r true false) .expire (Turn.look g r true true)
  /-- A draining disable checks whether the drain is over. -/
  | check {pc : Pc α} (hpc : pc = recheck ∨ pc = draining true) :
      Moves g pc .run { gate := g, pc := drainCheck g }
  /-- A drain check interval passes with waiters still inside a disabled gate: they are woken
  again. -/
  | rebroadcast (h : 0 < g.waiting ∧ g.enabled = false) :
      Moves g (draining false) .expire
        { gate := g, pc := emit (.stillPending g.waiting) true, wakes := { waiters := true } }
  /-- A drain check interval passes with nobody inside a wait, or on an enabled gate. -/
  | interval (h : ¬(0 < g.waiting ∧ g.enabled = false)) :
      Moves g (draining false) .expire { gate := g, pc := drainCheck g }
  /-- A notice handed to the sink. -/
  | emit (n : Notice) (more : Bool) :
      Moves g (emit n more) .run
        { gate := g, pc := if more then recheck else returned .none, notice := some n }

theorem moves_of_step {g : Gate α} {pc : Pc α} {a : Act α} {turn : Turn α}
    (h : pc.step g a = some turn) : Moves g pc a turn := by
  unfold Pc.step at h
  split at h
  · cases h; exact .invoke _ (.inl rfl)
  · cases h; exact .invoke _ (.inr ⟨_, rfl⟩)
  · cases h; exact .start _
  · cases h; exact .wake _ _
  · cases h; exact .expire _
  · cases h; exact .check (.inl rfl)
  · cases h; exact .check (.inr rfl)
  · split at h <;> cases h
    · exact .rebroadcast ‹_›
    · exact .interval ‹_›
  · cases h; exact .emit _ _
  · cases h

namespace Moves

variable {g : Gate α} {pc : Pc α} {a : Act α} {turn : Turn α}

/-- A step leaves the value and the flag alone, with its thread on the operation it was on or
calling one; or it is the step in which that operation takes effect, as on the atomic gate. -/
theorem effect (h : Moves g pc a turn) :
    (turn.gate.value = g.value ∧ turn.gate.enabled = g.enabled ∧
      (turn.pc.pending = pc.pending ∨
        pc.pending = none ∧ ∃ op, a = .invoke op ∧ turn.pc.pending = some op)) ∨
    ∃ op reply, pc.pending = some op ∧ turn.pc.pending = none ∧ turn.pc.reply? = some reply ∧
      op.atomic g a.expires = some (turn.gate.value, turn.gate.enabled, reply) := by
  cases h with
  | invoke op hpc =>
    refine .inl ⟨rfl, rfl, .inr ⟨?_, op, rfl, rfl⟩⟩
    rcases hpc with rfl | ⟨r, rfl⟩ <;> rfl
  | start op =>
    rcases Op.start_effect g op with ⟨hv, he, hp⟩ | ⟨reply, hp, hr, hatomic⟩
    · exact .inl ⟨hv, he, .inl hp⟩
    · exact .inr ⟨op, reply, rfl, hp, hr, hatomic⟩
  | wake r timed =>
    rcases Turn.look_cases g r timed false (by simp) with
      ⟨-, -, -, hlook⟩ | ⟨v, reply, hatomic, hgate, hpc, -⟩
    · exact .inl (by simp [hlook, pending])
    · refine .inr ⟨.wait r timed, reply, rfl, by simp [hpc, pending], by simp [hpc, reply?], ?_⟩
      simpa [hgate, Act.expires] using hatomic
  | expire r =>
    obtain ⟨v, reply, hatomic, hgate, hpc, -⟩ := Turn.lastLook_leaves g r
    refine .inr ⟨.wait r true, reply, rfl, by simp [hpc, pending], by simp [hpc, reply?], ?_⟩
    simpa [hgate, Act.expires] using hatomic
  | check hpc =>
    refine .inl ⟨rfl, rfl, .inl ?_⟩
    rw [pending_drainCheck]
    rcases hpc with rfl | rfl <;> rfl
  | rebroadcast _ => exact .inl ⟨rfl, rfl, .inl rfl⟩
  | interval _ => exact .inl ⟨rfl, rfl, .inl (pending_drainCheck g)⟩
  | emit n more => exact .inl ⟨rfl, rfl, .inl (by cases more <;> rfl)⟩

/-- A step changes the count of waiters by exactly the change in whether its own thread is inside
a wait, provided the gate counts a thread that is inside one. -/
theorem waiting (h : Moves g pc a turn) (hcounted : pc.inWait = true → 0 < g.waiting) :
    turn.gate.waiting + pc.inWait.toNat = g.waiting + turn.pc.inWait.toNat := by
  cases h with
  | invoke op hpc => rcases hpc with rfl | ⟨r, rfl⟩ <;> rfl
  | start op =>
    cases op with
    | wait r timed =>
      rw [Op.start_wait]
      rcases Turn.look_cases { g with waiting := g.waiting + 1 } r timed false (by simp) with
        ⟨-, -, -, hlook⟩ | ⟨v, reply, -, hgate, hpc, -⟩
      · simp [hlook, inWait]
      · simp [hgate, hpc, inWait]
    | drain => simp only [Op.start]; split <;> rfl
    | adjust d arith =>
      cases hn : (arith g.value d).2 <;> simp [Op.start, hn, announce, inWait, Gate.update]
    | disable =>
      by_cases hw : 0 < g.waiting <;> simp [Op.start, hw, announce, inWait, Gate.disable]
    | read | isEnabled | waitingCount | set | update | enable => rfl
  | wake r timed =>
    rcases Turn.look_cases g r timed false (by simp) with
      ⟨-, -, -, hlook⟩ | ⟨v, reply, -, hgate, hpc, -⟩
    · simp [hlook, inWait]
    · have := hcounted rfl
      simp only [hgate, hpc, inWait, Bool.toNat_true, Bool.toNat_false]
      omega
  | expire r =>
    obtain ⟨v, reply, -, hgate, hpc, -⟩ := Turn.lastLook_leaves g r
    have := hcounted rfl
    simp only [hgate, hpc, inWait, Bool.toNat_true, Bool.toNat_false]
    omega
  | check hpc =>
    rw [inWait_drainCheck]
    rcases hpc with rfl | rfl <;> rfl
  | rebroadcast _ => rfl
  | interval _ => rw [inWait_drainCheck]; rfl
  | emit n more => cases more <;> rfl

/-- A thread a step puts to sleep inside a wait found the gate enabled and its condition
failing. -/
theorem parked (h : Moves g pc a turn) {r : Request α} {timed : Bool}
    (hp : turn.pc = parked r timed false) :
    turn.gate.enabled = true ∧ r.check turn.gate.value = .fails := by
  cases h with
  | start op =>
    cases op with
    | wait r' timed' =>
      rw [Op.start_wait] at hp ⊢
      rcases Turn.look_cases { g with waiting := g.waiting + 1 } r' timed' false (by simp) with
        ⟨he, hc, -, hlook⟩ | ⟨v, reply, -, -, hpc, -⟩
      · rw [hlook] at hp ⊢
        cases hp
        exact ⟨he, hc⟩
      · rw [hpc] at hp
        cases hp
    | adjust d arith => cases hn : (arith g.value d).2 <;> simp [Op.start, announce, hn] at hp
    | disable => simp only [Op.start, announce] at hp; split at hp <;> cases hp
    | drain => simp only [Op.start] at hp; split at hp <;> cases hp
    | read | isEnabled | waitingCount | set | update | enable => cases hp
  | wake r' timed' =>
    rcases Turn.look_cases g r' timed' false (by simp) with
      ⟨he, hc, -, hlook⟩ | ⟨v, reply, -, -, hpc, -⟩
    · rw [hlook] at hp ⊢
      cases hp
      exact ⟨he, hc⟩
    · rw [hpc] at hp
      cases hp
  | expire r' =>
    obtain ⟨v, reply, -, -, hpc, -⟩ := Turn.lastLook_leaves g r'
    rw [hpc] at hp
    cases hp
  | check _ | interval _ =>
    simp only [drainCheck] at hp
    split at hp
    · cases hp
    · split at hp <;> cases hp
  | emit n more => cases more <;> cases hp
  | invoke _ _ | rebroadcast _ => cases hp

/-- A step changes the value or the flag only while it wakes every waiter, or by enabling the
gate. -/
theorem value_enabled (h : Moves g pc a turn) :
    (turn.gate.value = g.value ∧ turn.gate.enabled = g.enabled) ∨ turn.wakes.waiters = true ∨
      turn.gate = { g with enabled := true } := by
  cases h with
  | start op =>
    cases op with
    | wait r timed =>
      rw [Op.start_wait]
      rcases Turn.look_cases { g with waiting := g.waiting + 1 } r timed false (by simp) with
        ⟨-, -, -, hlook⟩ | ⟨v, reply, -, hgate, -, hwake⟩
      · exact .inl (by simp [hlook])
      · rcases hwake with hv | hwake
        · exact .inl (by simp [hgate, hv])
        · exact .inr (.inl hwake)
    | enable => exact .inr (.inr rfl)
    | read | isEnabled | waitingCount => exact .inl ⟨rfl, rfl⟩
    | set | update | adjust | disable => exact .inr (.inl rfl)
    | drain => exact .inr (.inl rfl)
  | wake r timed =>
    rcases Turn.look_cases g r timed false (by simp) with
      ⟨-, -, -, hlook⟩ | ⟨v, reply, -, hgate, -, hwake⟩
    · exact .inl (by simp [hlook])
    · rcases hwake with hv | hwake
      · exact .inl (by simp [hgate, hv])
      · exact .inr (.inl hwake)
  | expire r =>
    obtain ⟨v, reply, -, hgate, -, hwake⟩ := Turn.lastLook_leaves g r
    rcases hwake with hv | hwake
    · exact .inl (by simp [hgate, hv])
    · exact .inr (.inl hwake)
  | invoke _ _ | check _ | rebroadcast _ | interval _ | emit _ _ => exact .inl ⟨rfl, rfl⟩

/-- A thread whose last call returned can only call again. -/
theorem returned_inv {r : Reply α} (h : Moves g (returned r) a turn) : ∃ op, a = .invoke op := by
  cases h with
  | invoke op _ => exact ⟨op, rfl⟩
  | check hpc => rcases hpc with hpc | hpc <;> cases hpc

/-- A thread on a call that calls nothing new runs the call's first critical section. -/
theorem call_inv {op : Op α} (h : Moves g (call op) a turn) (hcall : ∀ op', a ≠ .invoke op') :
    a = .run ∧ turn = op.start g := by
  cases h with
  | start => exact ⟨rfl, rfl⟩
  | invoke op' _ => exact absurd rfl (hcall op')
  | check hpc => rcases hpc with hpc | hpc <;> cases hpc

/-- A thread about to hand a notice to the sink hands it over, unless it calls something new. -/
theorem emit_inv {n : Notice} {more : Bool} (h : Moves g (.emit n more) a turn)
    (hcall : ∀ op, a ≠ .invoke op) :
    turn = { gate := g, pc := if more then recheck else returned .none, notice := some n } := by
  cases h with
  | emit => rfl
  | invoke op _ => exact absurd rfl (hcall op)
  | check hpc => rcases hpc with hpc | hpc <;> cases hpc

end Moves

end Pc

/-! ## Steps of the machine -/

namespace Machine

variable {m m' : Machine α} {t : Nat} {a : Act α}

/-- A step of the machine: thread `t` stands at `pc` and moves by `turn`, carried out with its
wake-ups reaching every thread. -/
theorem step_moves (h : m.step t a = some m') :
    ∃ pc turn, m.threads[t]? = some pc ∧ Pc.Moves m.gate pc a turn ∧ m' = m.apply t turn := by
  obtain ⟨pc, turn, hpc, hstep, rfl⟩ := step_eq_some.mp h
  exact ⟨pc, turn, hpc, Pc.moves_of_step hstep, rfl⟩

theorem getElem?_apply_self {pc : Pc α} (hpc : m.threads[t]? = some pc) (turn : Turn α) :
    (m.apply t turn).threads[t]? = some turn.pc :=
  apply_self (List.getElem?_eq_some_iff.mp hpc).1 turn

/-- The step of a thread that has called an operation is that operation's first critical
section. -/
theorem step_call {op : Op α} (hpc : m.threads[t]? = some (.call op)) :
    m.step t .run = some (m.apply t (op.start m.gate)) := by
  simp [step, hpc, Pc.step]

/-- The step of a thread handing over its last line: the line is offered and the call returns. -/
theorem step_emit {n : Notice} (hpc : m.threads[t]? = some (.emit n false)) :
    m.step t .run =
      some (m.apply t { gate := m.gate, pc := .returned .none, notice := some n }) := by
  simp [step, hpc, Pc.step]

/-- The step of a thread woken inside a wait is its look at the gate. -/
theorem step_woken {r : Request α} {timed : Bool}
    (hpc : m.threads[t]? = some (.parked r timed true)) :
    m.step t .run = some (m.apply t (Turn.look m.gate r timed false)) := by
  simp [step, hpc, Pc.step]

/-- A step seen from the thread that takes it, from where it stood to where it stands. -/
theorem step_moves_to {pc pc' : Pc α} (h : m.step t a = some m') (hpc : m.threads[t]? = some pc)
    (hpc' : m'.threads[t]? = some pc') :
    ∃ turn, Pc.Moves m.gate pc a turn ∧ turn.pc = pc' ∧ m' = m.apply t turn := by
  obtain ⟨pc₀, turn, hpc₀, hmove, rfl⟩ := step_moves h
  rw [hpc, Option.some.injEq] at hpc₀
  subst hpc₀
  rw [getElem?_apply_self hpc, Option.some.injEq] at hpc'
  exact ⟨turn, hmove, hpc', rfl⟩

theorem pending_apply_self {pc : Pc α} (hpc : m.threads[t]? = some pc) (turn : Turn α) :
    (m.apply t turn).pending t = turn.pc.pending := by
  simp [pending, getElem?_apply_self hpc]

/-- A step leaves every other thread on the operation it was on. -/
theorem pending_apply_other {u : Nat} (hu : u ≠ t) (turn : Turn α) :
    (m.apply t turn).pending u = m.pending u := by
  cases hpc : m.threads[u]? <;> simp [pending, apply_other m hu, hpc]

/-- Of all threads, only the moving one can enter or leave a wait. -/
theorem countP_inWait_apply {pc : Pc α} (hpc : m.threads[t]? = some pc) (turn : Turn α) :
    (m.apply t turn).threads.countP Pc.inWait + pc.inWait.toNat =
      m.threads.countP Pc.inWait + turn.pc.inWait.toNat := by
  obtain ⟨ht, hget⟩ := List.getElem?_eq_some_iff.mp hpc
  have hcomp : (Pc.inWait ∘ Pc.wake turn.wakes : Pc α → Bool) = Pc.inWait := by
    funext pc'
    simp
  have hle := List.boole_getElem_le_countP (p := Pc.inWait) ht
  have hlen : t < (m.threads.map (Pc.wake turn.wakes)).length := by simpa using ht
  rw [hget] at hle
  simp only [apply]
  rw [List.countP_set hlen, List.countP_map, hcomp, List.getElem_map, hget, Pc.inWait_wake]
  cases hp : pc.inWait <;> cases turn.pc.inWait <;>
    simp only [hp, Bool.false_eq_true, if_true, if_false, Bool.toNat_true, Bool.toNat_false]
      at hle ⊢ <;>
    omega

/-- A run of one more step: the step, then the rest of the run from where it leads. -/
theorem exec_cons_eq_some {rest : List (Nat × Act α)} :
    m.exec ((t, a) :: rest) = some m' ↔ ∃ m₁, m.step t a = some m₁ ∧ m₁.exec rest = some m' := by
  rw [exec_cons, Option.bind_eq_some_iff]

/-- A machine a run reaches from a reachable one is reachable. -/
theorem Reachable.exec (hm : m.Reachable) (steps : List (Nat × Act α))
    (h : m.exec steps = some m') : m'.Reachable := by
  induction steps generalizing m with
  | nil =>
    cases h
    exact hm
  | cons s rest ih =>
    obtain ⟨t, a⟩ := s
    obtain ⟨m₁, hstep, hrest⟩ := exec_cons_eq_some.mp h
    exact ih (hm.step hstep) hrest

end Machine

end WaitGate
