import WaitGate.Proofs.Machine.Steps
/-!
# The count of waiters, and the waiters asleep

The invariant of the machine, `Machine.Sound`, has two parts:

* the gate's count of waiters is the number of threads inside a wait, each counted from the
  critical section in which it enters to the one in which it leaves;
* a waiter asleep that no wake-up has reached sleeps on an enabled gate whose value fails its
  condition.

A fresh gate has no waiter, and every step keeps both parts (`Sound.step`), so every reachable
machine is sound. The count is kept because a step changes it by exactly the change in whether
its own thread is inside a wait (`Pc.Moves.waiting`). The sleepers are kept because a step
changes the value or the flag only while waking every waiter, or by enabling the gate, and a
gate with an unwoken sleeper is already enabled: enabling needs no wake-up only because of the
second part itself.

The main result here is the accounting of waiters: the count is exact, it moves only with the
stepping thread, a thread leaving a wait is counted out once and from a positive count, a panic
of a condition leaves the value and the flag alone, and where no waiter is woken the count is
the number of blocked waiters, none on a disabled gate.
-/

namespace WaitGate

variable {α : Type}

namespace Pc

/-- Whether a thread is asleep inside a wait with no wake-up pending: blocked. -/
def blocked : Pc α → Bool
  | parked _ _ false => true
  | _ => false

/-- A wake-up leaves a thread unwoken in a wait only if it was so and the wake-up was not for
waiters. -/
theorem wake_eq_parked {w : Wakes} {pc : Pc α} {r : Request α} {timed : Bool} :
    pc.wake w = parked r timed false ↔ pc = parked r timed false ∧ w.waiters = false := by
  cases pc <;> simp [wake, and_assoc]

/-- A woken waiter stays woken. -/
@[simp] theorem wake_parked_woken (w : Wakes) (r : Request α) (timed : Bool) :
    (parked r timed true).wake w = parked r timed true := by
  simp [wake]

end Pc

namespace Machine

/-- The invariant of reachable machines. -/
structure Sound (m : Machine α) : Prop where
  /-- The gate counts exactly the threads inside a wait. -/
  waiting_eq : m.gate.waiting = m.threads.countP Pc.inWait
  /-- A waiter asleep that no wake-up has reached sleeps on an enabled gate whose value fails
  its condition. -/
  asleep : ∀ pc ∈ m.threads, ∀ r timed, pc = .parked r timed false →
    m.gate.enabled = true ∧ r.check m.gate.value = .fails

theorem sound_init (v : α) (enabled : Bool) (n : Nat) : (init v enabled n).Sound where
  waiting_eq := by simp [init, List.countP_replicate, Pc.inWait]
  asleep := by
    intro pc hpc r timed hparked
    obtain ⟨-, rfl⟩ := List.mem_replicate.mp hpc
    cases hparked

/-- A blocked thread, found by its place among the threads, sleeps on an enabled gate whose value
fails its condition. -/
theorem Sound.asleep_at {m : Machine α} (hs : m.Sound) {t : Nat} {r : Request α} {timed : Bool}
    (hpc : m.threads[t]? = some (.parked r timed false)) :
    m.gate.enabled = true ∧ r.check m.gate.value = .fails :=
  hs.asleep _ (List.mem_of_getElem? hpc) r timed rfl

/-- A thread inside a wait is counted. -/
theorem Sound.waiting_pos {m : Machine α} (hs : m.Sound) {t : Nat} {pc : Pc α}
    (hpc : m.threads[t]? = some pc) (hin : pc.inWait = true) : 0 < m.gate.waiting := by
  rw [hs.waiting_eq]
  exact List.countP_pos_iff.mpr ⟨pc, List.mem_of_getElem? hpc, hin⟩

/-- The count of waiters moves only with the stepping thread. -/
theorem Sound.waiting_step {m m' : Machine α} {t : Nat} {a : Act α} {pc : Pc α} {turn : Turn α}
    (hs : m.Sound) (hpc : m.threads[t]? = some pc) (hmove : Pc.Moves m.gate pc a turn)
    (h : m' = m.apply t turn) :
    m'.gate.waiting + pc.inWait.toNat = m.gate.waiting + turn.pc.inWait.toNat := by
  subst h
  exact hmove.waiting (hs.waiting_pos hpc)

/-- Every step keeps the invariant. -/
theorem Sound.step {m m' : Machine α} {t : Nat} {a : Act α} (hs : m.Sound)
    (h : m.step t a = some m') : m'.Sound := by
  obtain ⟨pc, turn, hpc, hmove, rfl⟩ := step_moves h
  constructor
  · -- the count follows the threads inside a wait
    have hcount := countP_inWait_apply hpc turn
    have hgate := hs.waiting_step hpc hmove rfl
    rw [hs.waiting_eq] at hgate
    simp only [apply_gate] at hgate ⊢
    omega
  · intro pc' hmem r timed hparked
    subst hparked
    rcases List.mem_or_eq_of_mem_set hmem with hold | hnew
    · -- a thread that stood there before: unwoken, so nobody was woken, and it slept soundly
      obtain ⟨pc₀, hpc₀, hwake⟩ := List.mem_map.mp hold
      obtain ⟨rfl, hquiet⟩ := Pc.wake_eq_parked.mp hwake
      obtain ⟨henabled, hfails⟩ := hs.asleep _ hpc₀ r timed rfl
      rcases hmove.value_enabled with ⟨hvalue, hflag⟩ | hwoke | henable
      · simp only [apply_gate, hvalue, hflag]
        exact ⟨henabled, hfails⟩
      · rw [hwoke] at hquiet
        cases hquiet
      · -- enabling an enabled gate changes nothing
        simp [henable, hfails]
    · -- the stepping thread went to sleep
      exact hmove.parked hnew.symm

theorem Reachable.sound {m : Machine α} (h : m.Reachable) : m.Sound := by
  induction h with
  | fresh v enabled n => exact sound_init v enabled n
  | step _ hstep ih => exact ih.step hstep

/-! ## The accounting of waiters -/

/-- One step of a sound machine, seen from the thread that takes it: a thread inside a wait is
counted, the count changes by exactly the change in whether that thread is inside a wait, and a
step that ends its call in a panic leaves the value and the flag alone. -/
theorem Sound.step_count {m m' : Machine α} {t : Nat} {a : Act α} {pc pc' : Pc α} (hs : m.Sound)
    (h : m.step t a = some m') (hpc : m.threads[t]? = some pc)
    (hpc' : m'.threads[t]? = some pc') :
    (pc.inWait = true → 0 < m.gate.waiting) ∧
      m'.gate.waiting + pc.inWait.toNat = m.gate.waiting + pc'.inWait.toNat ∧
      (pc' = .returned .panicked →
        m'.gate.value = m.gate.value ∧ m'.gate.enabled = m.gate.enabled) := by
  obtain ⟨turn, hmove, rfl, rfl⟩ := step_moves_to h hpc hpc'
  refine ⟨hs.waiting_pos hpc, hs.waiting_step hpc hmove rfl, fun hpanic => ?_⟩
  simp only [apply_gate]
  rcases hmove.effect with ⟨hvalue, hflag, -⟩ | ⟨op, reply, -, -, hreply, hatomic⟩
  · exact ⟨hvalue, hflag⟩
  · -- the step is where the call took effect, and its reply is the panic
    rw [hpanic] at hreply
    cases hreply
    exact Op.atomic_panicked hatomic

/-- Where no woken waiter is still waiting for the lock, the waiters counted are the blocked ones,
and a disabled gate has none: a waiter blocked on it would sleep on an enabled gate. -/
theorem Sound.settled {m : Machine α} (hs : m.Sound)
    (hsettled : ∀ pc ∈ m.threads, ∀ r timed, pc ≠ .parked r timed true) :
    m.gate.waiting = m.threads.countP Pc.blocked ∧
      (m.gate.enabled = false → m.gate.waiting = 0) := by
  have hblocked : m.gate.waiting = m.threads.countP Pc.blocked := by
    rw [hs.waiting_eq]
    apply List.countP_congr
    intro pc hpc
    cases pc with
    | parked r timed woken =>
      cases woken with
      | false => simp [Pc.inWait, Pc.blocked]
      | true => exact absurd rfl (hsettled _ hpc r timed)
    | _ => simp [Pc.inWait, Pc.blocked]
  refine ⟨hblocked, fun hdisabled => ?_⟩
  rw [hblocked, List.countP_eq_zero]
  intro pc hpc hb
  cases pc with
  | parked r timed woken =>
    cases woken with
    | false =>
      have henabled := (hs.asleep _ hpc r timed rfl).1
      rw [hdisabled] at henabled
      cases henabled
    | true => cases hb
  | _ => cases hb

/-- The accounting of waiters. In every reachable machine the gate counts exactly the threads
inside a wait. In every step a thread inside a wait is counted, so the count never underflows, and
the count changes by exactly the change in whether the stepping thread is inside a wait: it falls
by one in the critical section in which a waiter leaves, whatever the outcome, a panic of the
condition included, and a panic leaves the value and the flag as they were. Where no woken waiter
is still waiting for the lock, the count is the number of blocked waiters, and it is zero on a
disabled gate. -/
theorem waiting_counts_threads_inside {m : Machine α} (hm : m.Reachable) :
    m.gate.waiting = m.threads.countP Pc.inWait ∧
    (∀ t a m' pc pc', m.step t a = some m' → m.threads[t]? = some pc →
      m'.threads[t]? = some pc' →
      (pc.inWait = true → 0 < m.gate.waiting) ∧
      m'.gate.waiting + pc.inWait.toNat = m.gate.waiting + pc'.inWait.toNat ∧
      (pc' = .returned .panicked →
        m'.gate.value = m.gate.value ∧ m'.gate.enabled = m.gate.enabled)) ∧
    ((∀ pc ∈ m.threads, ∀ r timed, pc ≠ .parked r timed true) →
      m.gate.waiting = m.threads.countP Pc.blocked ∧
        (m.gate.enabled = false → m.gate.waiting = 0)) := by
  have hs := hm.sound
  exact ⟨hs.waiting_eq, fun _ _ _ _ _ h hpc hpc' => hs.step_count h hpc hpc', hs.settled⟩

/-- A counter at zero with a taker asleep on it, waiting for a unit, beside an idle thread. -/
def asleepTaker : Machine Count :=
  { gate := ⟨Count.zero, true, 1⟩, threads := [.parked CounterCommand.takeOne false false, .idle] }

/-- The taker asleep on a counter at zero is the one waiter counted, and it is blocked. -/
theorem waiting_counts_asleep_taker :
    asleepTaker.Reachable ∧ asleepTaker.gate.waiting = asleepTaker.threads.countP Pc.blocked := by
  have hm : asleepTaker.Reachable :=
    (Reachable.fresh Count.zero true 2).exec [(0, .invoke (Op.takeOne false)), (0, .run)] rfl
  exact ⟨hm, ((waiting_counts_threads_inside hm).2.2 (by simp [asleepTaker])).1⟩

end Machine

end WaitGate
