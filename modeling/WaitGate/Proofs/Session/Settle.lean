import WaitGate.Session.Basic
import WaitGate.Proofs.Machine.WakeOrder
/-!
# Settling a session is a run of the threads on its gate

A session keeps its background waiters in a list, the lowest number first, and settles them with
`settleWith`: the first woken waiter looks at the gate, and a look that changed the value wakes all
the others. The threads on a gate do the same by steps of the machine, in any order. This file
ties the two. The threads of a session are its gate with one thread per waiter, in the order of
their numbers: asleep in a wait, woken or not, or returned with the waiter's ending
(`Machine.ofWaiters`). Then

* one look of `lookFirstWoken` is one step of the machine, taken by the lowest-numbered woken
  thread (`lookFirstWoken_step`), and every `settleWith` is a run of such steps
  (`settleWith_lowestFirst`, by induction on the fuel);
* the fuel of `Session.settle` lasts: the measure

  ```text
  μ = (waiters asleep) * (n + 1) + (waiters woken)      for n waiters
  ```

  falls with every look. A look that puts its waiter back to sleep wakes nobody and leaves one
  woken waiter fewer; a look that ends its waiter leaves one asleep fewer, and at most `n` woken,
  whoever it wakes. As `μ < (n + 1) ^ 2`, a settled session has no woken waiter
  (`settleWith_settled`);
* so the settle of a session is a settling run of its threads (`settle_settles`), and what is
  proved of settling runs holds of the session the driver runs: when its waits only look, or one
  waiter waits alone, the lowest-number-first order ends where every other order ends
  (`settle_any_order`).
-/

namespace WaitGate

variable {α : Type}

/-! ## The threads of the waiters -/

/-- A look, as the threads take it: the gate after it, where it leaves its thread, and the wake-up
it sends. -/
theorem Turn.look_eq (g : Gate α) (r : Request α) (timed last : Bool) :
    Turn.look g r timed last =
      { gate := (g.look r last).1, pc := Pc.ofLook r timed (g.look r last).2.1,
        wakes := (g.look r last).2.2 } := rfl

/-- A look that puts its waiter back to sleep wakes nobody. -/
theorem Gate.look_sleep_wakes {g : Gate α} {r : Request α} {last : Bool}
    (h : (g.look r last).2.1 = .sleep) : (g.look r last).2.2 = {} := by
  cases he : g.enabled
  · rw [Gate.look_of_disabled g r last he] at h
    cases h
  · cases hc : r.check g.value with
    | holds =>
      rw [Gate.look_of_holds g r last he hc] at h
      cases h
    | aborts =>
      rw [Gate.look_of_aborts g r last he hc] at h
      cases h
    | fails =>
      -- only a look before the deadline sleeps again
      rw [Gate.look_of_fails g r last he hc] at h ⊢
      cases last
      · rfl
      · cases h

/-- A look's wake-up never reaches the waiter that looked: either the look ended its wait, or it
put it back to sleep and woke nobody. -/
theorem Pc.ofLook_wake_self (g : Gate α) (r : Request α) (timed : Bool) :
    (Pc.ofLook r timed (g.look r false).2.1).wake (g.look r false).2.2 =
      Pc.ofLook r timed (g.look r false).2.1 := by
  cases hl : (g.look r false).2.1 with
  | sleep =>
    rw [Gate.look_sleep_wakes hl]
    rfl
  | leave o => rfl
  | abort => rfl

namespace Waiter

/-- Whether a waiter is still inside its wait, woken or not. -/
def asleep (w : Waiter α) : Bool :=
  match w.phase with
  | .asleep _ _ => true
  | .ended _ => false

/-- The thread of a background waiter: asleep in its wait, or returned with its ending. Its wait
is untimed: a deadline an hour or more ahead never passes during a session. -/
def pc (w : Waiter α) : Pc α :=
  match w.phase with
  | .asleep r b => .parked r false b
  | .ended (.outcome o) => .returned (.outcome o)
  | .ended .panicked => .returned .panicked

/-- A waiter is woken exactly when its thread is asleep in a wait and woken. -/
theorem woken_iff_pc {w : Waiter α} : w.woken = true ↔ ∃ r timed, w.pc = .parked r timed true := by
  obtain ⟨id, phase⟩ := w
  cases phase with
  | asleep r b => cases b <;> simp [woken, pc]
  | ended e => cases e <;> simp [woken, pc]

theorem woken_eq_false {w : Waiter α} (h : ∀ r, w.phase ≠ .asleep r true) : w.woken = false := by
  obtain ⟨id, phase⟩ := w
  cases phase with
  | asleep r b =>
    cases b
    · rfl
    · exact absurd rfl (h r)
  | ended e => rfl

/-- A woken waiter is asleep. -/
theorem asleep_of_woken {w : Waiter α} (h : w.woken = true) : w.asleep = true := by
  obtain ⟨id, phase⟩ := w
  cases phase with
  | asleep r b => rfl
  | ended e => simp [woken] at h

@[simp] theorem asleep_wake (w : Waiter α) : w.wake.asleep = w.asleep := by
  obtain ⟨id, phase⟩ := w
  cases phase <;> rfl

@[simp] theorem woken_wake (w : Waiter α) : w.wake.woken = w.asleep := by
  obtain ⟨id, phase⟩ := w
  cases phase <;> rfl

/-- The waiter a look leaves stands where the look leaves its thread. -/
theorem pc_after (w : Waiter α) (r : Request α) (l : Look) :
    { w with phase := after r l }.pc = Pc.ofLook r false l := by
  cases l <;> rfl

/-- A wake-up reaches the threads of the waiters as it reaches the waiters. -/
theorem map_pc_wakeIf (wk : Wakes) (ws : List (Waiter α)) :
    (if wk.waiters then ws.map wake else ws).map pc = (ws.map pc).map (Pc.wake wk) := by
  have hif : (if wk.waiters then ws.map wake else ws) =
      ws.map fun w => if wk.waiters then w.wake else w := by
    split <;> simp
  rw [hif, List.map_map, List.map_map]
  refine List.map_congr_left fun w _ => ?_
  obtain ⟨id, phase⟩ := w
  obtain ⟨waiters, drainer⟩ := wk
  -- a drainer's wake-up reaches no waiter
  cases phase with
  | asleep r b => cases waiters <;> simp [wake, pc, Pc.wake]
  | ended e => cases e <;> cases waiters <;> rfl

end Waiter

/-- The threads of a gate with these background waiters, the lowest number first. -/
def Machine.ofWaiters (g : Gate α) (ws : List (Waiter α)) : Machine α :=
  { gate := g, threads := ws.map Waiter.pc }

/-- A thread of the waiters is woken exactly when its waiter is. -/
theorem Machine.ofWaiters_woken {g : Gate α} {ws : List (Waiter α)} {t : Nat} :
    (Machine.ofWaiters g ws).Woken t ↔ ∃ w, ws[t]? = some w ∧ w.woken = true := by
  simp only [Machine.Woken, Machine.ofWaiters, List.getElem?_map, Option.map_eq_some_iff,
    Waiter.woken_iff_pc]
  constructor
  · rintro ⟨r, timed, w, hw, hpc⟩
    exact ⟨w, hw, r, timed, hpc⟩
  · rintro ⟨w, hw, r, timed, hpc⟩
    exact ⟨r, timed, w, hw, hpc⟩

/-! ## One look -/

/-- The first woken waiter looks: the waiters before it are not woken, and the look changes only
the gate and that waiter. -/
theorem lookFirstWoken_eq_some {g g' : Gate α} {ws ws' : List (Waiter α)} {b : Bool}
    (h : lookFirstWoken g ws = some (g', ws', b)) :
    ∃ pre w post r, ws = pre ++ w :: post ∧ (∀ v ∈ pre, v.woken = false) ∧
      w.phase = .asleep r true ∧ g' = (g.look r false).1 ∧
      ws' = pre ++ { w with phase := Waiter.after r (g.look r false).2.1 } :: post ∧
      b = (g.look r false).2.2.waiters := by
  induction ws generalizing ws' with
  | nil => cases h
  | cons w ws ih =>
    unfold lookFirstWoken at h
    split at h
    · -- the first waiter is woken, so it is the one that looks
      rename_i r hphase
      obtain ⟨rfl, rfl, rfl⟩ : (g.look r false).1 = g' ∧
          { w with phase := Waiter.after r (g.look r false).2.1 } :: ws = ws' ∧
          (g.look r false).2.2.waiters = b := by
        simpa using h
      exact ⟨[], w, ws, r, rfl, by simp, hphase, rfl, rfl, rfl⟩
    · rename_i hnot
      obtain ⟨⟨g₁, ws₁, b₁⟩, hrest, hmap⟩ := Option.map_eq_some_iff.mp h
      simp only [Prod.mk.injEq] at hmap
      obtain ⟨rfl, rfl, rfl⟩ := hmap
      obtain ⟨pre, v, post, r, rfl, hpre, hv, rfl, rfl, rfl⟩ := ih hrest
      refine ⟨w :: pre, v, post, r, rfl, ?_, hv, rfl, rfl, rfl⟩
      intro u hu
      rcases List.mem_cons.mp hu with rfl | hu
      · exact Waiter.woken_eq_false hnot
      · exact hpre u hu

/-- No look is left exactly when no waiter is woken. -/
theorem lookFirstWoken_eq_none {g : Gate α} {ws : List (Waiter α)} :
    lookFirstWoken g ws = none ↔ ∀ w ∈ ws, w.woken = false := by
  induction ws with
  | nil => simp [lookFirstWoken]
  | cons w ws ih =>
    unfold lookFirstWoken
    split
    · rename_i r hphase
      simp [Waiter.woken, hphase]
    · rename_i hnot
      simp [ih, Waiter.woken_eq_false hnot]

/-- A look of the session is a step of its threads, taken by the lowest-numbered woken thread;
the wake-up it sends reaches the waiters as it reaches their threads. -/
theorem lookFirstWoken_step {g g' : Gate α} {ws ws' : List (Waiter α)} {b : Bool}
    (h : lookFirstWoken g ws = some (g', ws', b)) :
    ∃ t, (Machine.ofWaiters g ws).Woken t ∧ (∀ u < t, ¬(Machine.ofWaiters g ws).Woken u) ∧
      (Machine.ofWaiters g ws).step t .run =
        some (Machine.ofWaiters g' (if b then ws'.map Waiter.wake else ws')) := by
  obtain ⟨pre, w, post, r, rfl, hpre, hw, rfl, rfl, rfl⟩ := lookFirstWoken_eq_some h
  have hthread : (Machine.ofWaiters g (pre ++ w :: post)).threads[pre.length]? =
      some (.parked r false true) := by
    simp [Machine.ofWaiters, Waiter.pc, hw]
  refine ⟨pre.length, ⟨r, false, hthread⟩, fun u hu hwoken => ?_, ?_⟩
  · -- a waiter before the first woken one is not woken
    obtain ⟨v, hv, hvwoken⟩ := Machine.ofWaiters_woken.mp hwoken
    rw [List.getElem?_append_left hu] at hv
    rw [hpre v (List.mem_of_getElem? hv)] at hvwoken
    cases hvwoken
  · rw [Machine.step_woken hthread, Option.some.injEq, Turn.look_eq]
    simp only [Machine.ofWaiters, Machine.apply, Machine.mk.injEq]
    -- the look's wake-up reaches every other thread, and its own thread is where the look put it
    rw [Waiter.map_pc_wakeIf]
    simp only [List.map_append, List.map_cons, Waiter.pc_after, Pc.ofLook_wake_self]
    rw [List.set_append_right _ _ (by simp)]
    simp

/-! ## Settling -/

namespace Machine

/-- A run of looks in which each look is taken by the lowest-numbered woken thread. -/
inductive LowestFirst : Machine α → List Nat → Machine α → Prop
  | nil (m : Machine α) : LowestFirst m [] m
  | look {m m₁ m' : Machine α} {t : Nat} {ts : List Nat} (ht : m.Woken t)
      (hlowest : ∀ u < t, ¬m.Woken u) (hstep : m.step t .run = some m₁)
      (rest : LowestFirst m₁ ts m') : LowestFirst m (t :: ts) m'

/-- A run of looks, lowest number first, that leaves no thread woken settles the machine. -/
theorem LowestFirst.settles {m m' : Machine α} {ts : List Nat} (h : LowestFirst m ts m')
    (hdone : ∀ t, ¬m'.Woken t) : Settles m ts m' := by
  induction h with
  | nil => exact .done hdone
  | look ht _ hstep _ ih => exact .look ht hstep (ih hdone)

end Machine

/-- Every settling of the waiters, whatever its fuel, is a run of their threads' looks, each taken
by the lowest-numbered woken thread, one for each unit of fuel it uses. -/
theorem settleWith_lowestFirst (fuel : Nat) (g : Gate α) (ws : List (Waiter α)) :
    ∃ ts, ts.length ≤ fuel ∧ Machine.LowestFirst (Machine.ofWaiters g ws) ts
      (Machine.ofWaiters (settleWith fuel g ws).1 (settleWith fuel g ws).2) := by
  induction fuel generalizing g ws with
  | zero => exact ⟨[], Nat.le_refl _, .nil _⟩
  | succ fuel ih =>
    cases hlook : lookFirstWoken g ws with
    | none =>
      -- nobody is woken: settling stops where it is
      refine ⟨[], by simp, ?_⟩
      simp only [settleWith, hlook]
      exact .nil _
    | some next =>
      obtain ⟨g', ws', b⟩ := next
      obtain ⟨t, ht, hlowest, hstep⟩ := lookFirstWoken_step hlook
      obtain ⟨ts, hlen, hrun⟩ := ih g' (if b then ws'.map Waiter.wake else ws')
      refine ⟨t :: ts, by simpa using hlen, ?_⟩
      simp only [settleWith, hlook]
      exact .look ht hlowest hstep hrun

/-! ## The fuel of a settle lasts -/

/-- What is left of settling `n` waiters: each waiter still asleep may yet be woken and look, and
each woken one will look. -/
def settleMeasure (n : Nat) (ws : List (Waiter α)) : Nat :=
  ws.countP Waiter.asleep * (n + 1) + ws.countP Waiter.woken

/-- No more waiters are woken than asleep. -/
theorem countP_woken_le_asleep (ws : List (Waiter α)) :
    ws.countP Waiter.woken ≤ ws.countP Waiter.asleep :=
  List.countP_mono_left fun _ _ h => Waiter.asleep_of_woken h

/-- The waiter a look leaves is not woken, and asleep only if the look put it back to sleep. -/
theorem Waiter.after_counts (w : Waiter α) (r : Request α) (l : Look) :
    { w with phase := Waiter.after r l }.woken = false ∧
      ({ w with phase := Waiter.after r l }.asleep = true ↔ l = .sleep) := by
  cases l <;> simp [Waiter.after, Waiter.woken, Waiter.asleep]

/-- Every look of a settle keeps the number of waiters and lowers the measure. -/
theorem lookFirstWoken_measure {g g' : Gate α} {ws ws' : List (Waiter α)} {b : Bool} {n : Nat}
    (h : lookFirstWoken g ws = some (g', ws', b)) (hn : ws.length ≤ n) :
    (if b then ws'.map Waiter.wake else ws').length = ws.length ∧
      settleMeasure n (if b then ws'.map Waiter.wake else ws') < settleMeasure n ws := by
  have hkeep : (if b then ws'.map Waiter.wake else ws').countP Waiter.asleep =
      ws'.countP Waiter.asleep := by
    split <;> simp [List.countP_map, Function.comp_def]
  have hbound := countP_woken_le_asleep (if b then ws'.map Waiter.wake else ws')
  obtain ⟨pre, w, post, r, rfl, -, hw, rfl, rfl, rfl⟩ := lookFirstWoken_eq_some h
  refine ⟨by split <;> simp, ?_⟩
  have hquiet : (g.look r false).2.1 = .sleep → (g.look r false).2.2.waiters = false :=
    fun hl => by rw [Gate.look_sleep_wakes hl]
  generalize (g.look r false).2.1 = l at hkeep hbound hquiet ⊢
  generalize (g.look r false).2.2.waiters = b at hkeep hbound hquiet ⊢
  -- the counts of the waiters around the one that looked do not change
  have hcount : ∀ (p : Waiter α → Bool) (v : Waiter α),
      (pre ++ v :: post).countP p = pre.countP p + post.countP p + (p v).toNat := by
    intro p v
    cases hp : p v <;> simp [List.countP_append, hp, Nat.add_assoc]
  have hasleep : (pre ++ w :: post).countP Waiter.asleep =
      pre.countP Waiter.asleep + post.countP Waiter.asleep + 1 := by
    rw [hcount]
    simp [Waiter.asleep, hw]
  have hwoken : (pre ++ w :: post).countP Waiter.woken =
      pre.countP Waiter.woken + post.countP Waiter.woken + 1 := by
    rw [hcount]
    simp [Waiter.woken, hw]
  obtain ⟨hwoken', hasleep'⟩ := Waiter.after_counts w r l
  have hlen : (pre ++ w :: post).countP Waiter.asleep ≤ n :=
    Nat.le_trans List.countP_le_length hn
  unfold settleMeasure
  rw [hkeep] at hbound ⊢
  rw [hasleep, hwoken, Nat.add_one_mul]
  rw [hasleep] at hlen
  by_cases hl : l = .sleep
  · -- back to sleep: the look woke nobody, and one woken waiter fewer is left
    rw [hquiet hl, hcount, hasleep'.mpr hl]
    simp only [Bool.false_eq_true, if_false, hcount, hwoken', Bool.toNat_true, Bool.toNat_false,
      Nat.add_one_mul]
    omega
  · -- the waiter ended: one asleep fewer, and at most the rest woken
    have hended : ({ w with phase := Waiter.after r l }).asleep = false := by
      simpa using mt hasleep'.mp hl
    rw [hcount, hended] at hbound ⊢
    simp only [Bool.toNat_false, Nat.add_zero] at hbound ⊢
    omega

/-- The measure of `n` waiters is below `(n + 1) ^ 2`, the fuel of a settle. -/
theorem settleMeasure_lt (ws : List (Waiter α)) :
    settleMeasure ws.length ws < (ws.length + 1) * (ws.length + 1) := by
  have hasleep : ws.countP Waiter.asleep ≤ ws.length := List.countP_le_length
  have hwoken := countP_woken_le_asleep ws
  have hmul := Nat.mul_le_mul_right (ws.length + 1) hasleep
  unfold settleMeasure
  rw [Nat.add_one_mul ws.length]
  omega

/-- Settling with more fuel than the measure leaves no waiter woken. -/
theorem settleWith_settled (fuel n : Nat) (g : Gate α) (ws : List (Waiter α)) (hn : ws.length ≤ n)
    (hfuel : settleMeasure n ws < fuel) : ∀ w ∈ (settleWith fuel g ws).2, w.woken = false := by
  induction fuel generalizing g ws with
  | zero => exact absurd hfuel (Nat.not_lt_zero _)
  | succ fuel ih =>
    cases hlook : lookFirstWoken g ws with
    | none =>
      -- settling stopped because nobody is woken
      simp only [settleWith, hlook]
      exact lookFirstWoken_eq_none.mp hlook
    | some next =>
      obtain ⟨g', ws', b⟩ := next
      obtain ⟨hlen, hlower⟩ := lookFirstWoken_measure hlook hn
      simp only [settleWith, hlook]
      exact ih g' _ (hlen ▸ hn) (by omega)

namespace Session

theorem settle_gate (s : Session α) :
    s.settle.gate = (settleWith ((s.waiters.length + 1) * (s.waiters.length + 1)) s.gate
      s.waiters).1 := rfl

theorem settle_waiters (s : Session α) :
    s.settle.waiters = (settleWith ((s.waiters.length + 1) * (s.waiters.length + 1)) s.gate
      s.waiters).2 := rfl

/-- A settled session has no woken waiter. -/
theorem settle_settled (s : Session α) : ∀ w ∈ s.settle.waiters, w.woken = false := by
  rw [settle_waiters]
  exact settleWith_settled _ s.waiters.length s.gate s.waiters (Nat.le_refl _)
    (settleMeasure_lt s.waiters)

/-- Settling a session is a settling run of the threads on its gate, in which each look is taken
by the lowest-numbered woken thread. -/
theorem settle_settles (s : Session α) :
    ∃ ts, Machine.LowestFirst (Machine.ofWaiters s.gate s.waiters) ts
        (Machine.ofWaiters s.settle.gate s.settle.waiters) ∧
      Machine.Settles (Machine.ofWaiters s.gate s.waiters) ts
        (Machine.ofWaiters s.settle.gate s.settle.waiters) := by
  obtain ⟨ts, -, hrun⟩ :=
    settleWith_lowestFirst ((s.waiters.length + 1) * (s.waiters.length + 1)) s.gate s.waiters
  rw [← settle_gate, ← settle_waiters] at hrun
  have hdone : ∀ t, ¬(Machine.ofWaiters s.settle.gate s.settle.waiters).Woken t := by
    intro t ht
    obtain ⟨w, hw, hwoken⟩ := Machine.ofWaiters_woken.mp ht
    rw [s.settle_settled w (List.mem_of_getElem? hw)] at hwoken
    cases hwoken
  exact ⟨ts, hrun, hrun.settles hdone⟩

/-- When every wait of a session only looks, or one waiter waits alone, the order of the looks
does not matter: every settling run of its threads ends where the session's settle ends. -/
theorem settle_any_order (s : Session α)
    (h : (Machine.ofWaiters s.gate s.waiters).ModifierAlone) {ts : List Nat} {m : Machine α}
    (hs : Machine.Settles (Machine.ofWaiters s.gate s.waiters) ts m) :
    m = Machine.ofWaiters s.settle.gate s.settle.waiters := by
  obtain ⟨_, -, hsettle⟩ := s.settle_settles
  exact Machine.settle_unique h hs hsettle

end Session

end WaitGate
