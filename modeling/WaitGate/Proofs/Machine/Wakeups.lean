import WaitGate.Proofs.Machine.Waiters
/-!
# No lost wake-up

A waiter that goes to sleep inside a wait is woken by every later step that could end its wait.
The steps of other threads either wake it, or leave it asleep on the very value and flag it fell
asleep on (`Sound.step_other_blocked`), and a woken waiter stays woken until it moves
(`step_other_woken`). Both hold because a step changes the value or the flag only while waking
every waiter, or by enabling the gate (`Pc.Moves.value_enabled`), and enabling needs no wake-up:
a gate with a waiter asleep is already enabled, by the second part of `Machine.Sound`.

Over a run in which the waiter does not move, this gives the main result, `no_lost_wakeup`: the
waiter ends woken, or still asleep on the gate it fell asleep on, where its condition still fails.
So when the gate ends disabled, or with a value the condition does not fail, the waiter has been
woken, and its next turn ends the wait with the reply the gate then gives (`step_woken_reply`).
-/

namespace WaitGate

variable {α : Type}

namespace Machine

variable {m m' : Machine α} {t u : Nat} {a : Act α} {r : Request α} {timed : Bool}

/-! ## One step of another thread -/

/-- Another thread's step leaves a woken waiter woken. -/
theorem step_other_woken (h : m.step u a = some m') (hu : t ≠ u)
    (hpc : m.threads[t]? = some (.parked r timed true)) :
    m'.threads[t]? = some (.parked r timed true) := by
  obtain ⟨pc, turn, -, -, rfl⟩ := step_moves h
  rw [apply_other m hu, hpc]
  simp

/-- Another thread's step either wakes a blocked waiter, or leaves it blocked with the value and
the flag as they were. -/
theorem Sound.step_other_blocked (hs : m.Sound) (h : m.step u a = some m') (hu : t ≠ u)
    (hpc : m.threads[t]? = some (.parked r timed false)) :
    m'.threads[t]? = some (.parked r timed true) ∨
      m'.threads[t]? = some (.parked r timed false) ∧
        m'.gate.value = m.gate.value ∧ m'.gate.enabled = m.gate.enabled := by
  obtain ⟨pc, turn, -, hmove, rfl⟩ := step_moves h
  have hwake : (m.apply u turn).threads[t]? = some (.parked r timed turn.wakes.waiters) := by
    rw [apply_other m hu, hpc]
    simp [Pc.wake]
  cases hw : turn.wakes.waiters with
  | true =>
    rw [hw] at hwake
    exact .inl hwake
  | false =>
    -- no wake-up, so the step changed neither the value nor the flag
    rw [hw] at hwake
    refine .inr ⟨hwake, ?_⟩
    have henabled := (hs.asleep_at hpc).1
    rcases hmove.value_enabled with ⟨hvalue, hflag⟩ | hwoke | henable
    · exact ⟨hvalue, hflag⟩
    · rw [hw] at hwoke
      cases hwoke
    · -- enabling a gate that a blocked waiter sleeps on, so already enabled
      simp [henable, henabled]

/-- A woken waiter that takes the lock leaves the wait with the reply the gate gives it: disabled
on a disabled gate, without asking its condition; on an enabled gate, that the condition was met
when it holds, and the panic when it aborts. -/
theorem step_woken_reply (hpc : m.threads[t]? = some (.parked r timed true))
    (h : m.step t .run = some m') :
    (m.gate.enabled = false → m'.threads[t]? = some (.returned (.outcome .disabled))) ∧
    (m.gate.enabled = true → r.check m.gate.value = .holds →
      m'.threads[t]? = some (.returned (.outcome .conditionMet))) ∧
    (m.gate.enabled = true → r.check m.gate.value = .aborts →
      m'.threads[t]? = some (.returned .panicked)) := by
  rw [step_woken hpc, Option.some.injEq] at h
  subst h
  rw [getElem?_apply_self hpc]
  exact ⟨fun he => by rw [Turn.look_pc_of_disabled _ _ _ _ he],
    fun he hc => by rw [Turn.look_pc_of_holds _ _ _ _ he hc],
    fun he hc => by rw [Turn.look_pc_of_aborts _ _ _ _ he hc]⟩

/-! ## Runs in which the waiter does not move -/

/-- A run in which a woken waiter does not move leaves it woken. -/
theorem exec_other_woken {steps : List (Nat × Act α)} (h : m.exec steps = some m')
    (hidle : ∀ s ∈ steps, s.1 ≠ t) (hpc : m.threads[t]? = some (.parked r timed true)) :
    m'.threads[t]? = some (.parked r timed true) := by
  induction steps generalizing m with
  | nil =>
    cases h
    exact hpc
  | cons s rest ih =>
    obtain ⟨u, a⟩ := s
    obtain ⟨m₁, hstep, hrest⟩ := exec_cons_eq_some.mp h
    have hu : t ≠ u := fun htu => hidle (u, a) List.mem_cons_self htu.symm
    exact ih hrest (fun s hs => hidle s (List.mem_cons_of_mem _ hs))
      (step_other_woken hstep hu hpc)

/-- A run from a reachable machine in which a blocked waiter does not move either wakes it, or
leaves it blocked with the value and the flag as they were. -/
theorem Reachable.exec_other_blocked (hm : m.Reachable) {steps : List (Nat × Act α)}
    (h : m.exec steps = some m') (hidle : ∀ s ∈ steps, s.1 ≠ t)
    (hpc : m.threads[t]? = some (.parked r timed false)) :
    m'.threads[t]? = some (.parked r timed true) ∨
      m'.threads[t]? = some (.parked r timed false) ∧
        m'.gate.value = m.gate.value ∧ m'.gate.enabled = m.gate.enabled := by
  induction steps generalizing m with
  | nil =>
    cases h
    exact .inr ⟨hpc, rfl, rfl⟩
  | cons s rest ih =>
    obtain ⟨u, a⟩ := s
    obtain ⟨m₁, hstep, hrest⟩ := exec_cons_eq_some.mp h
    have hu : t ≠ u := fun htu => hidle (u, a) List.mem_cons_self htu.symm
    have hidle' : ∀ s ∈ rest, s.1 ≠ t := fun s hs => hidle s (List.mem_cons_of_mem _ hs)
    rcases hm.sound.step_other_blocked hstep hu hpc with hwoken | ⟨hpc₁, hvalue, hflag⟩
    · exact .inl (exec_other_woken hrest hidle' hwoken)
    · -- still blocked after the first step: the rest of the run starts from the same gate
      rcases ih (hm.step hstep) hrest hidle' hpc₁ with hwoken | ⟨hpc', hvalue', hflag'⟩
      · exact .inl hwoken
      · exact .inr ⟨hpc', hvalue'.trans hvalue, hflag'.trans hflag⟩

/-! ## No lost wake-up -/

/-- No wake-up is lost. A waiter blocked in a reachable machine sleeps on an enabled gate whose
value fails its condition. After any run in which it does not move, it is either woken, or still
blocked on the same value and flag, where its condition still fails. So if the run ends on a
disabled gate, or on a value its condition does not fail, the waiter has been woken, and its next
turn ends its wait with the reply the gate then gives: disabled on a disabled gate, that the
condition was met when it holds, the panic when it aborts. -/
theorem no_lost_wakeup (hm : m.Reachable) (hpc : m.threads[t]? = some (.parked r timed false))
    {steps : List (Nat × Act α)} (hrun : m.exec steps = some m')
    (hidle : ∀ s ∈ steps, s.1 ≠ t) :
    (m.gate.enabled = true ∧ r.check m.gate.value = .fails) ∧
    (m'.threads[t]? = some (.parked r timed true) ∨
      m'.threads[t]? = some (.parked r timed false) ∧
        m'.gate.value = m.gate.value ∧ m'.gate.enabled = m.gate.enabled) ∧
    ((m'.gate.enabled = false ∨ r.check m'.gate.value ≠ .fails) →
      m'.threads[t]? = some (.parked r timed true) ∧
        ∀ m'', m'.step t .run = some m'' →
          (m'.gate.enabled = false → m''.threads[t]? = some (.returned (.outcome .disabled))) ∧
          (m'.gate.enabled = true → r.check m'.gate.value = .holds →
            m''.threads[t]? = some (.returned (.outcome .conditionMet))) ∧
          (m'.gate.enabled = true → r.check m'.gate.value = .aborts →
            m''.threads[t]? = some (.returned .panicked))) := by
  have hasleep := hm.sound.asleep_at hpc
  have hend := hm.exec_other_blocked hrun hidle hpc
  refine ⟨hasleep, hend, fun hready => ?_⟩
  have hwoken : m'.threads[t]? = some (.parked r timed true) := by
    rcases hend with hwoken | ⟨-, hvalue, hflag⟩
    · exact hwoken
    · -- still blocked, on the gate it fell asleep on, where its wait cannot end
      rw [hvalue, hflag] at hready
      rcases hready with hdisabled | hready
      · rw [hasleep.1] at hdisabled
        cases hdisabled
      · exact absurd hasleep.2 hready
  exact ⟨hwoken, fun m'' h => step_woken_reply hwoken h⟩

/-- A thread that raises a counter at zero wakes the taker asleep on it. -/
theorem raise_wakes_asleep_taker :
    (asleepTaker.exec [(1, .invoke (Op.shift false Count.one)), (1, .run)]).map
        (·.threads[0]?) =
      some (some (.parked CounterCommand.takeOne false true)) := by
  have hm : asleepTaker.Reachable :=
    (Reachable.fresh Count.zero true 2).exec [(0, .invoke (Op.takeOne false)), (0, .run)] rfl
  have hrun : asleepTaker.exec [(1, .invoke (Op.shift false Count.one)), (1, .run)] = some _ :=
    rfl
  have hidle : ∀ s ∈ [((1 : Nat), (.invoke (Op.shift false Count.one) : Act Count)),
      (1, .run)], s.1 ≠ 0 := by
    simp
  obtain ⟨-, -, hready⟩ := no_lost_wakeup hm rfl hrun hidle
  rw [hrun, Option.map_some, (hready (.inr (by decide))).1]

end Machine

end WaitGate
