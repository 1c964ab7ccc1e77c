import WaitGate.Proofs.Machine.Waiters
import WaitGate.Proofs.Machine.Linearizable
/-!
# A disabled gate only drains

On a disabled gate a waiter that looks, when it enters, when it wakes or at its deadline, leaves in
that same critical section: a look asks the flag before the condition. So while the gate stays
disabled nobody goes to sleep inside a wait, the set of threads inside a wait only shrinks (a
thread that calls a wait is counted in and out in one critical section), and the count of
waiters never grows and falls by one at each critical section of a thread that was inside a wait.

The gate stays disabled as long as no call to enable takes effect: every other call leaves the
flag as it was or clears it (`Op.atomic_enabled`). With the count of waiters kept exact
(`Machine.Sound`), one step is `Sound.step_disabled`; over a run it gives the measure a draining
disable counts down on: the count of waiters falls by exactly the number of steps that threads
inside a wait take (`Reachable.exec_disabled`).
-/

namespace WaitGate

variable {α : Type}

/-! ## Enabling is the only way back -/

/-- Of all calls, only enabling takes a disabled gate to an enabled one. -/
theorem Op.atomic_enabled {g : Gate α} {expired : Bool} {op : Op α} {v : α} {enabled : Bool}
    {reply : Reply α} (h : op.atomic g expired = some (v, enabled, reply)) (hop : op ≠ .enable)
    (hg : g.enabled = false) : enabled = false := by
  cases op with
  | enable => exact absurd rfl hop
  | wait r timed =>
    -- a wait on a disabled gate answers `disabled` and keeps the flag
    simp only [Op.atomic, hg, Bool.false_eq_true, ↓reduceIte, Option.some.injEq,
      Prod.mk.injEq] at h
    exact h.2.1.symm
  | disable | drain =>
    simp only [Op.atomic, Option.some.injEq, Prod.mk.injEq] at h
    exact h.2.1.symm
  | read | isEnabled | waitingCount | set | update | adjust =>
    simp only [Op.atomic, Option.some.injEq, Prod.mk.injEq] at h
    rw [← h.2.1, hg]

namespace Pc

theorem pending_eq_enable {pc : Pc α} (h : pc.pending = some .enable) : pc = .call .enable := by
  cases pc with
  | call op =>
    simp only [pending, Option.some.injEq] at h
    rw [h]
  | _ => simp [pending] at h

end Pc

/-- A thread that a look leaves inside the wait sleeps on an enabled gate. -/
theorem Turn.look_inWait {g : Gate α} {r : Request α} {timed last : Bool}
    (hlast : last = true → timed = true) (hin : (Turn.look g r timed last).pc.inWait = true) :
    (Turn.look g r timed last).gate.enabled = true := by
  rcases Turn.look_cases g r timed last hlast with ⟨he, -, -, hlook⟩ | ⟨v, reply, -, -, hpc, -⟩
  · rw [hlook]
    exact he
  · rw [hpc] at hin
    simp [Pc.inWait] at hin

namespace Pc.Moves

variable {g : Gate α} {pc : Pc α} {a : Act α} {turn : Turn α}

/-- A step leaves its thread inside a wait only on an enabled gate. -/
theorem enabled_of_inWait (h : Moves g pc a turn) (hin : turn.pc.inWait = true) :
    turn.gate.enabled = true := by
  cases h with
  | start op =>
    cases op with
    | wait r timed =>
      rw [Op.start_wait] at hin ⊢
      exact Turn.look_inWait (by simp) hin
    | drain =>
      simp only [Op.start] at hin
      split at hin <;> simp [inWait] at hin
    | adjust | disable => simp [Op.start] at hin
    | read | isEnabled | waitingCount | set | update | enable => simp [Op.start, inWait] at hin
  | wake r timed => exact Turn.look_inWait (by simp) hin
  | expire r => exact Turn.look_inWait (fun _ => rfl) hin
  | check _ | interval _ => simp at hin
  | emit n more => cases more <;> simp [inWait] at hin
  | invoke _ _ | rebroadcast _ => simp [inWait] at hin

/-- A step that is not a call to enable keeps a disabled gate disabled. -/
theorem enabled_of_disabled (h : Moves g pc a turn) (hg : g.enabled = false)
    (hpc : pc ≠ .call .enable) : turn.gate.enabled = false := by
  rcases h.effect with ⟨-, hflag, -⟩ | ⟨op, reply, hop, -, -, hatomic⟩
  · rw [hflag, hg]
  · -- the step is where the thread's call takes effect, and that call is no enabling
    refine Op.atomic_enabled hatomic (fun henable => hpc ?_) hg
    rw [henable] at hop
    exact pending_eq_enable hop

end Pc.Moves

namespace Machine

/-- Whether thread `t` is inside a wait, counted among the gate's waiters. -/
def registered (m : Machine α) (t : Nat) : Bool := m.threads[t]?.any Pc.inWait

theorem registered_of_getElem? {m : Machine α} {t : Nat} {pc : Pc α}
    (hpc : m.threads[t]? = some pc) : m.registered t = pc.inWait := by
  simp [registered, hpc]

/-- Only the stepping thread can enter or leave a wait. -/
theorem registered_apply_other (m : Machine α) {t u : Nat} (hu : u ≠ t) (turn : Turn α) :
    (m.apply t turn).registered u = m.registered u := by
  cases hpc : m.threads[u]? <;> simp [registered, apply_other m hu, hpc]

/-- How many steps of a run are taken by a thread inside a wait. -/
def waiterSteps (m : Machine α) : List (Nat × Act α) → Nat
  | [] => 0
  | (t, a) :: rest =>
    match m.step t a with
    | some m' => (m.registered t).toNat + m'.waiterSteps rest
    | none => 0

theorem waiterSteps_cons_of_step {m m' : Machine α} {t : Nat} {a : Act α}
    (h : m.step t a = some m') (rest : List (Nat × Act α)) :
    m.waiterSteps ((t, a) :: rest) = (m.registered t).toNat + m'.waiterSteps rest := by
  simp [waiterSteps, h]

variable {m m' : Machine α} {t : Nat} {a : Act α}

/-- A step from a call to enable is where the enabling takes effect. -/
theorem effect?_of_call_enable (hpc : m.threads[t]? = some (.call .enable))
    (h : m.step t a = some m') : ∃ e, m.effect? m' t a = some e ∧ e.op = .enable := by
  obtain ⟨pc, turn, hpc₀, hmove, rfl⟩ := step_moves h
  rw [hpc, Option.some.injEq] at hpc₀
  subst hpc₀
  cases hmove with
  | start op =>
    have hrecord : m.effect? (m.apply t (Op.enable.start m.gate)) t .run =
        some { thread := t, op := .enable, gate := m.gate, expired := false,
               value := m.gate.value, enabled := true, reply := .none } := by
      simp [effect?, pending, Pc.pending, hpc, getElem?_apply_self hpc, Op.start, Pc.reply?,
        Gate.enable, Act.expires]
    exact ⟨_, hrecord, rfl⟩
  | invoke op hcall => rcases hcall with hcall | ⟨r, hcall⟩ <;> cases hcall
  | check hcall => rcases hcall with hcall | hcall <;> cases hcall

/-! ## One step on a disabled gate -/

/-- One step on a disabled gate, other than a call to enable, in a sound machine: the gate stays
disabled, the stepping thread is not inside a wait after it, no other thread enters one, and the
count of waiters falls by one if the stepping thread was inside a wait and stays put otherwise. -/
theorem Sound.step_disabled (hs : m.Sound) (hg : m.gate.enabled = false)
    (h : m.step t a = some m') (hne : m.threads[t]? ≠ some (.call .enable)) :
    m'.gate.enabled = false ∧ m'.registered t = false ∧
      (∀ u, m'.registered u = true → m.registered u = true) ∧
      m'.gate.waiting + (m.registered t).toNat = m.gate.waiting := by
  obtain ⟨pc, turn, hpc, hmove, rfl⟩ := step_moves h
  have hflag : turn.gate.enabled = false :=
    hmove.enabled_of_disabled hg (fun hcall => hne (hcall ▸ hpc))
  -- nobody is left asleep inside a wait on a disabled gate
  have hout : turn.pc.inWait = false := by
    cases hin : turn.pc.inWait
    · rfl
    · have := hmove.enabled_of_inWait hin
      rw [hflag] at this
      cases this
  have hself : (m.apply t turn).registered t = false := by
    rw [registered_of_getElem? (getElem?_apply_self hpc turn), hout]
  refine ⟨hflag, hself, fun u hu => ?_, ?_⟩
  · by_cases hut : u = t
    · subst hut
      rw [hself] at hu
      cases hu
    · rwa [registered_apply_other m hut] at hu
  · have hcount := hs.waiting_step hpc hmove rfl
    rw [hout, registered_of_getElem? hpc] at *
    simp only [Bool.toNat_false, Nat.add_zero] at hcount
    omega

/-! ## Runs on a disabled gate -/

/-- A step that is not a call to enable records no enabling: a run in which no enabling takes
effect has no step from a call to enable. -/
theorem not_call_enable_of_history {rest : List (Nat × Act α)} (h : m.step t a = some m')
    (hquiet : ∀ e ∈ m.history ((t, a) :: rest), e.op ≠ .enable) :
    m.threads[t]? ≠ some (.call .enable) := by
  intro hpc
  obtain ⟨e, he, hop⟩ := effect?_of_call_enable hpc h
  refine hquiet e ?_ hop
  rw [history_cons_of_step h, he]
  exact List.mem_append_left _ (by simp)

/-- A run from a reachable disabled gate in which no enabling takes effect keeps the gate
disabled, lets no thread newly enter a wait, and lowers the count of waiters by exactly the number
of steps taken by threads inside a wait. -/
theorem Reachable.exec_disabled (hm : m.Reachable) (hg : m.gate.enabled = false)
    {steps : List (Nat × Act α)} (h : m.exec steps = some m')
    (hquiet : ∀ e ∈ m.history steps, e.op ≠ .enable) :
    m'.gate.enabled = false ∧ (∀ u, m'.registered u = true → m.registered u = true) ∧
      m'.gate.waiting + m.waiterSteps steps = m.gate.waiting := by
  induction steps generalizing m with
  | nil =>
    cases h
    exact ⟨hg, fun _ hu => hu, rfl⟩
  | cons s rest ih =>
    obtain ⟨t, a⟩ := s
    obtain ⟨m₁, hstep, hrest⟩ := exec_cons_eq_some.mp h
    obtain ⟨hg₁, -, hshrink₁, hcount₁⟩ :=
      hm.sound.step_disabled hg hstep (not_call_enable_of_history hstep hquiet)
    -- the rest of the run starts from a disabled gate and records no enabling either
    have hquiet₁ : ∀ e ∈ m₁.history rest, e.op ≠ .enable := fun e he =>
      hquiet e (by rw [history_cons_of_step hstep]; exact List.mem_append_right _ he)
    obtain ⟨hg', hshrink', hcount'⟩ := ih (hm.step hstep) hg₁ hrest hquiet₁
    refine ⟨hg', fun u hu => hshrink₁ u (hshrink' u hu), ?_⟩
    rw [waiterSteps_cons_of_step hstep]
    omega

/-- A disabled gate only drains. In a reachable machine whose gate is disabled, every step other
than a call to enable keeps the gate disabled, leaves the stepping thread outside any wait (a
waiter that looks on a disabled gate leaves in that critical section, and one that calls a wait
is counted in and out in one), lets no other thread enter a wait, and lowers the count of waiters
by one when the stepping thread was inside a wait and leaves it alone otherwise. Over every run in
which no enabling takes effect, the gate stays disabled, the threads inside a wait at the end were
all inside one at the start, and the count of waiters falls by exactly the number of steps that
threads inside a wait take: at most that many such steps can happen, which is the measure a
draining disable counts down. -/
theorem disabled_gate_only_drains (hm : m.Reachable) (hg : m.gate.enabled = false) :
    (∀ t a m', m.step t a = some m' → m.threads[t]? ≠ some (.call .enable) →
      m'.gate.enabled = false ∧ m'.registered t = false ∧
      (∀ u, m'.registered u = true → m.registered u = true) ∧
      m'.gate.waiting + (m.registered t).toNat = m.gate.waiting) ∧
    (∀ steps m', m.exec steps = some m' → (∀ e ∈ m.history steps, e.op ≠ .enable) →
      m'.gate.enabled = false ∧ (∀ u, m'.registered u = true → m.registered u = true) ∧
      m'.gate.waiting + m.waiterSteps steps = m.gate.waiting) :=
  ⟨fun _ _ _ h hne => hm.sound.step_disabled hg h hne,
    fun _ _ h hquiet => hm.exec_disabled hg h hquiet⟩

/-- The taker asleep on a counter at zero, woken by a disable on thread 1, which has still to hand
its line to the sink. -/
def disabledTaker : Machine Count :=
  { gate := ⟨Count.zero, false, 1⟩,
    threads := [.parked CounterCommand.takeOne false true, .emit (.disabledWhileWaiting 1) false] }

/-- On the disabled counter the woken taker leaves, and the count of waiters falls to zero. -/
theorem disabled_taker_leaves :
    ∃ m', disabledTaker.step 0 .run = some m' ∧ m'.gate.enabled = false ∧ m'.gate.waiting = 0 := by
  have hm : disabledTaker.Reachable :=
    (Reachable.fresh Count.zero true 2).exec
      [(0, .invoke (Op.takeOne false)), (0, .run), (1, .invoke .disable), (1, .run)] rfl
  have hstep : disabledTaker.step 0 .run = some _ := rfl
  obtain ⟨hflag, -, -, hcount⟩ :=
    (disabled_gate_only_drains hm rfl).1 0 .run _ hstep (by simp [disabledTaker])
  have hregistered : disabledTaker.registered 0 = true := rfl
  rw [hregistered] at hcount
  exact ⟨_, hstep, hflag, by simpa [disabledTaker] using hcount⟩

end Machine

end WaitGate
