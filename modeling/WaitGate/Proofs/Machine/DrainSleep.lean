import WaitGate.Proofs.Machine.Drain
/-!
# A drain sleeps only while it has to

Between its checks a draining disable sleeps on `drained`. Two facts about single steps keep it
from sleeping for nothing:

* it falls asleep only from a check that found waiters inside a disabled gate, in that critical
  section (`Pc.Moves.draining`);
* a critical section that finds waiters and leaves the gate disabled without any is a waiter
  leaving its wait, and it wakes the drain in that same critical section
  (`Pc.Moves.drainer_of_emptied`), because a look wakes the drain exactly when it leaves the gate
  disabled and empty (`Turn.look_drainer`).

Together they make `Machine.DrainWaits` an invariant of every step other than an enabling
(`DrainWaits.step`): a drain that is asleep and not woken has waiters to wait for, on a disabled
gate. Over a run in which no enabling takes effect, a drain is therefore never left asleep with
nobody inside a wait and no wake-up on its way (`drain_sleeps_only_while_needed`). The hypothesis
cannot go: once the gate is enabled again, the last waiter can leave an enabled gate, which wakes
nobody, and a later disable does not wake the drain either.
-/

namespace WaitGate

variable {α : Type}

/-! ## Looks and checks -/

/-- A look wakes the drain exactly when it leaves the gate disabled with nobody inside a wait: a
waiter that leaves counts itself out and wakes the drain if it was the last one on a disabled
gate, and a waiter that goes back to sleep found the gate enabled. -/
theorem Turn.look_drainer (g : Gate α) (r : Request α) (timed last : Bool) :
    (Turn.look g r timed last).wakes.drainer =
      ((Turn.look g r timed last).gate.waiting == 0 && !(Turn.look g r timed last).gate.enabled) := by
  show (g.look r last).2.2.drainer = ((g.look r last).1.waiting == 0 && !(g.look r last).1.enabled)
  cases he : g.enabled
  · rw [Gate.look_of_disabled g r last he]
    rfl
  · cases hc : r.check g.value with
    | aborts =>
      rw [Gate.look_of_aborts g r last he hc]
      rfl
    | holds =>
      rw [Gate.look_of_holds g r last he hc]
      rfl
    | fails =>
      rw [Gate.look_of_fails g r last he hc]
      cases last
      · -- asleep again, on an enabled gate
        simp [he]
      · rfl

/-- A look never leaves its thread asleep on `drained`. -/
theorem Turn.look_pc_ne_draining (g : Gate α) (r : Request α) (timed last woken : Bool) :
    (Turn.look g r timed last).pc ≠ .draining woken := by
  show Pc.ofLook r timed (g.look r last).2.1 ≠ _
  cases (g.look r last).2.1 <;> simp [Pc.ofLook]

/-- No operation's first critical section ends asleep on `drained`: a draining disable first
returns or announces itself, and a wait first looks. -/
theorem Op.start_pc_ne_draining (g : Gate α) (op : Op α) (woken : Bool) :
    (op.start g).pc ≠ .draining woken := by
  cases op with
  | wait r timed =>
    rw [Op.start_wait]
    exact Turn.look_pc_ne_draining _ r timed false woken
  | adjust d arith => cases hn : (arith g.value d).2 <;> simp [Op.start, Pc.announce, hn]
  | disable => simp only [Op.start, Pc.announce]; split <;> simp
  | drain => simp only [Op.start]; split <;> simp
  | read | isEnabled | waitingCount | set | update | enable => simp [Op.start]

namespace Pc

/-- A check of a drain goes to sleep only on a disabled gate with waiters inside, and unwoken. -/
theorem drainCheck_eq_draining {g : Gate α} {woken : Bool} (h : drainCheck g = draining woken) :
    woken = false ∧ 0 < g.waiting ∧ g.enabled = false := by
  unfold drainCheck at h
  split at h
  · cases h
  · rename_i hwaiting
    split at h
    · cases h
    · rename_i henabled
      cases h
      exact ⟨rfl, by omega, by simpa using henabled⟩

/-- A wake-up leaves a thread asleep on `drained` and unwoken only if it was so and the wake-up was
not for the drain. -/
theorem wake_eq_draining {w : Wakes} {pc : Pc α} :
    pc.wake w = draining false ↔ pc = draining false ∧ w.drainer = false := by
  cases pc <;> simp [wake]

namespace Moves

variable {g : Gate α} {pc : Pc α} {a : Act α} {turn : Turn α}

/-- A step leaves its thread asleep on `drained` only as a check of a drain that found waiters
inside a disabled gate; the check changes nothing, and the drain sleeps unwoken. -/
theorem draining (h : Moves g pc a turn) {woken : Bool} (hpc : turn.pc = .draining woken) :
    woken = false ∧ 0 < g.waiting ∧ g.enabled = false ∧ turn.gate = g := by
  cases h with
  | check _ | interval _ =>
    obtain ⟨hwoken, hpos, hdisabled⟩ := drainCheck_eq_draining hpc
    exact ⟨hwoken, hpos, hdisabled, rfl⟩
  | start op => exact absurd hpc (Op.start_pc_ne_draining g op woken)
  | wake r timed => exact absurd hpc (Turn.look_pc_ne_draining g r timed false woken)
  | expire r => exact absurd hpc (Turn.look_pc_ne_draining g r true true woken)
  | emit n more => cases more <;> cases hpc
  | invoke _ _ | rebroadcast _ => cases hpc

/-- A critical section that finds waiters inside and leaves the gate disabled with none is a
waiter leaving its wait, and it wakes the drain. -/
theorem drainer_of_emptied (h : Moves g pc a turn) (hpos : 0 < g.waiting)
    (hzero : turn.gate.waiting = 0) (hdisabled : turn.gate.enabled = false) :
    pc.inWait = true ∧ turn.pc.inWait = false ∧ turn.wakes.drainer = true := by
  have hcount := h.waiting (fun _ => hpos)
  -- the count fell, so the stepping thread was inside a wait and is no longer
  have hleft : pc.inWait = true ∧ turn.pc.inWait = false := by
    cases hin : pc.inWait <;> cases hout : turn.pc.inWait <;>
      simp only [hin, hout, Bool.toNat_true, Bool.toNat_false] at hcount <;> simp <;> omega
  refine ⟨hleft.1, hleft.2, ?_⟩
  -- only a waiter's look moves a thread inside a wait
  cases h with
  | wake r timed | expire r => simp [Turn.look_drainer, hzero, hdisabled]
  | invoke _ hpc => rcases hpc with rfl | ⟨_, rfl⟩ <;> simp [inWait] at hleft
  | check hpc => rcases hpc with rfl | rfl <;> simp [inWait] at hleft
  | start _ | rebroadcast _ | interval _ | emit _ _ => simp [inWait] at hleft

end Moves

end Pc

/-! ## Steps of the machine -/

namespace Machine

variable {m m' : Machine α} {t u : Nat} {a : Act α}

/-- A thread falls asleep on `drained` only in a check that found waiters inside a disabled gate,
and leaves the gate as it was. -/
theorem step_draining {woken : Bool} (h : m.step t a = some m')
    (hpc' : m'.threads[t]? = some (.draining woken)) :
    woken = false ∧ 0 < m.gate.waiting ∧ m.gate.enabled = false ∧ m'.gate = m.gate := by
  obtain ⟨pc, turn, hpc, hmove, rfl⟩ := step_moves h
  rw [getElem?_apply_self hpc, Option.some.injEq] at hpc'
  exact hmove.draining hpc'

/-- A step that finds waiters inside and leaves the gate disabled with none is the stepping
thread leaving its wait, and every drain asleep on `drained` is woken by it. -/
theorem step_wakes_drainer (h : m.step u a = some m') (hpos : 0 < m.gate.waiting)
    (hzero : m'.gate.waiting = 0) (hdisabled : m'.gate.enabled = false) :
    m.registered u = true ∧ m'.registered u = false ∧
      ∀ (v : Nat) (woken : Bool), m.threads[v]? = some (.draining woken) →
        m'.threads[v]? = some (.draining true) := by
  obtain ⟨pc, turn, hpc, hmove, rfl⟩ := step_moves h
  obtain ⟨hin, hout, hdrainer⟩ := hmove.drainer_of_emptied hpos hzero hdisabled
  refine ⟨by rw [registered_of_getElem? hpc, hin],
    by rw [registered_of_getElem? (getElem?_apply_self hpc turn), hout], fun v woken hv => ?_⟩
  -- the drain is another thread: the stepping one was inside a wait
  have hvu : v ≠ u := by
    rintro rfl
    rw [hpc, Option.some.injEq] at hv
    rw [hv] at hin
    cases hin
  rw [apply_other m hvu, hv]
  simp [Pc.wake, hdrainer]

/-- A drain asleep on `drained` and not woken has waiters to wait for, on a disabled gate. -/
def DrainWaits (m : Machine α) (t : Nat) : Prop :=
  m.threads[t]? = some (.draining false) → 0 < m.gate.waiting ∧ m.gate.enabled = false

/-- Every step but an enabling keeps a drain from sleeping for nothing: the drain falls asleep
only on a check that found waiters inside a disabled gate, and a step of another thread that
empties the disabled gate wakes it. -/
theorem DrainWaits.step (hw : m.DrainWaits t) (h : m.step u a = some m')
    (hne : m.threads[u]? ≠ some (.call .enable)) : m'.DrainWaits t := by
  intro hasleep
  by_cases hut : u = t
  · -- the drain's own step: a check that found waiters on a disabled gate
    subst hut
    obtain ⟨-, hpos, hdisabled, hgate⟩ := step_draining h hasleep
    rw [hgate]
    exact ⟨hpos, hdisabled⟩
  · -- another thread's step leaves the drain unwoken only if it was asleep unwoken before
    obtain ⟨pc, turn, hpc, hmove, rfl⟩ := step_moves h
    have hbefore : m.threads[t]? = some (.draining false) := by
      rw [apply_other m (Ne.symm hut)] at hasleep
      obtain ⟨pct, hpct, hwake⟩ := Option.map_eq_some_iff.mp hasleep
      rw [hpct, (Pc.wake_eq_draining.mp hwake).1]
    obtain ⟨hpos, hdisabled⟩ := hw hbefore
    have hflag : turn.gate.enabled = false :=
      hmove.enabled_of_disabled hdisabled (fun hcall => hne (hcall ▸ hpc))
    refine ⟨Nat.pos_of_ne_zero fun hzero => ?_, hflag⟩
    -- emptying the disabled gate would have woken the drain
    obtain ⟨-, -, hwake⟩ := step_wakes_drainer h hpos hzero hflag
    have hwoken := hwake t false hbefore
    rw [hasleep, Option.some.injEq] at hwoken
    cases hwoken

/-- Over a run in which no enabling takes effect, a drain is never left asleep for nothing. -/
theorem DrainWaits.exec (hw : m.DrainWaits t) {steps : List (Nat × Act α)}
    (h : m.exec steps = some m') (hquiet : ∀ e ∈ m.history steps, e.op ≠ .enable) :
    m'.DrainWaits t := by
  induction steps generalizing m with
  | nil =>
    cases h
    exact hw
  | cons s rest ih =>
    obtain ⟨u, a⟩ := s
    obtain ⟨m₁, hstep, hrest⟩ := exec_cons_eq_some.mp h
    have hquiet₁ : ∀ e ∈ m₁.history rest, e.op ≠ .enable := fun e he =>
      hquiet e (by rw [history_cons_of_step hstep]; exact List.mem_append_right _ he)
    exact ih (hw.step hstep (not_call_enable_of_history hstep hquiet)) hrest hquiet₁

/-- A drain sleeps only while it has to. Whatever the other threads do, a thread falls asleep on
`drained` only in a critical section that found waiters inside a disabled gate, unwoken and
changing nothing; and a critical section that finds waiters inside and leaves the gate disabled
with none is a waiter leaving its wait, which wakes a drain asleep on `drained` in that same
critical section. So over every run from a call to a draining disable in which no enabling takes
effect, whenever the drain is asleep and not woken there are still waiters inside the disabled
gate: it is never left asleep, with no wake-up on its way, once nobody is inside a wait. -/
theorem drain_sleeps_only_while_needed (hcall : m.threads[t]? = some (.call .drain)) :
    (∀ (m₁ m₂ : Machine α) (a : Act α) (woken : Bool), m₁.step t a = some m₂ →
      m₂.threads[t]? = some (.draining woken) →
      woken = false ∧ 0 < m₁.gate.waiting ∧ m₁.gate.enabled = false ∧ m₂.gate = m₁.gate) ∧
    (∀ (m₁ m₂ : Machine α) (u : Nat) (a : Act α), m₁.step u a = some m₂ →
      0 < m₁.gate.waiting → m₂.gate.waiting = 0 → m₂.gate.enabled = false →
      m₁.registered u = true ∧ m₂.registered u = false ∧
      ∀ woken, m₁.threads[t]? = some (.draining woken) → m₂.threads[t]? = some (.draining true)) ∧
    (∀ steps m', m.exec steps = some m' → (∀ e ∈ m.history steps, e.op ≠ .enable) →
      m'.threads[t]? = some (.draining false) → 0 < m'.gate.waiting ∧ m'.gate.enabled = false) := by
  refine ⟨fun _ _ _ _ h hpc' => step_draining h hpc', fun _ _ _ _ h hpos hzero hdisabled => ?_,
    fun steps m' h hquiet => ?_⟩
  · obtain ⟨hin, hout, hwake⟩ := step_wakes_drainer h hpos hzero hdisabled
    exact ⟨hin, hout, fun woken hv => hwake t woken hv⟩
  · -- at the call the drain is not asleep yet
    have hw : m.DrainWaits t := fun hasleep => by
      rw [hcall, Option.some.injEq] at hasleep
      cases hasleep
    exact hw.exec h hquiet

/-- The drain of the taker on a counter at zero: it disables the gate, announces itself and
checks, and falls asleep with the taker still inside. -/
theorem drain_asleep_on_taker :
    ∃ m', drainingTaker.exec (drainTakerRun.take 3) = some m' ∧
      m'.threads[1]? = some (.draining false) ∧ 0 < m'.gate.waiting ∧
      m'.gate.enabled = false := by
  have hrun : drainingTaker.exec (drainTakerRun.take 3) = some _ := rfl
  -- only the drain takes effect
  have hhistory : drainingTaker.history (drainTakerRun.take 3) =
      [⟨1, .drain, ⟨Count.zero, true, 1⟩, false, Count.zero, false, .none⟩] := rfl
  have hquiet : ∀ e ∈ drainingTaker.history (drainTakerRun.take 3), e.op ≠ .enable := by
    rw [hhistory]
    simp
  obtain ⟨-, -, hasleep⟩ :=
    drain_sleeps_only_while_needed (show drainingTaker.threads[1]? = some (.call .drain) from rfl)
  exact ⟨_, hrun, rfl, hasleep _ _ hrun hquiet rfl⟩

end Machine

end WaitGate
