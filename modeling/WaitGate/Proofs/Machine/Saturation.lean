import WaitGate.Proofs.Machine.Linearizable
/-!
# Saturating counter arithmetic

Raising or lowering a count works on the exact integer result and clamps it into the range of
counts, from `-2 ^ 63` to `2 ^ 63 - 1`; it warns exactly when it had to clamp. The bound `-2 ^ 63`
has no negation among counts, and lowering by it is no exception: from `0` it clamps to
`2 ^ 63 - 1` with a warning, from `-1` it lands exactly on `2 ^ 63 - 1` without one.

On the threads of a gate, a raise or a lower is one critical section that writes the clamped
count and wakes every waiter, followed by the hand-over of the warning to the sink when there is
one (`shift_saturates`). Since a count that stays in range is never clamped, a sequence of raises
and lowers whose exact running counts stay in range ends at the exact sum (`shiftAll_val`). On the
threads, raises and lowers take effect one at a time, in the order of the run's history, so a run
whose calls are raises and lowers ends on their clamped running count (`exec_shifts`).
-/

namespace WaitGate

namespace Count

/-- The clamp of an integer, bounded below first and then above. -/
theorem clamp_val_eq_min_max (i : Int) :
    (clamp i).val = min (max i (-9223372036854775808)) 9223372036854775807 := by
  rw [clamp_val]
  omega

theorem outside_iff (i : Int) :
    outside i = true ↔ i < -9223372036854775808 ∨ 9223372036854775807 < i := by
  simp only [outside, Bool.or_eq_true, decide_eq_true_eq]
  omega

end Count

namespace CounterCommand

/-- The exact integer result of raising (`lowering = false`) or lowering `v` by `d`. -/
def exact (lowering : Bool) (d v : Count) : Int :=
  if lowering then v.val - d.val else v.val + d.val

/-- The amount a raise or a lower changes a count by, with its sign. -/
def signed (lowering : Bool) (d : Count) : Int := if lowering then -d.val else d.val

theorem exact_eq_add_signed (lowering : Bool) (d v : Count) :
    exact lowering d v = v.val + signed lowering d := by
  cases lowering <;> simp [exact, signed, Int.sub_eq_add_neg]

/-- The count a raise or a lower leaves is the exact result clamped into range. -/
theorem shift_val (lowering : Bool) (d v : Count) :
    (shift lowering d v).1.val =
      min (max (exact lowering d v) (-9223372036854775808)) 9223372036854775807 := by
  cases lowering <;>
    simp only [shift, exact, Count.increase, Count.decrease, Count.clamp_val_eq_min_max,
      Bool.false_eq_true, ↓reduceIte]

/-- A raise or a lower warns exactly when the exact result is out of range, naming the amount and
the count it started from. -/
theorem shift_notice (lowering : Bool) (d v : Count) :
    (shift lowering d v).2 =
      if Count.outside (exact lowering d v) then some (.saturated lowering d.val v.val)
      else none := by
  cases lowering <;>
    simp only [shift, exact, Count.increase, Count.decrease, Bool.false_eq_true, ↓reduceIte]

/-- A count in range is not clamped. -/
theorem shift_val_of_inside {lowering : Bool} {d v : Count}
    (h : Count.outside (exact lowering d v) = false) :
    (shift lowering d v).1.val = exact lowering d v := by
  rw [shift_val]
  have hin : ¬(exact lowering d v < -9223372036854775808 ∨
      9223372036854775807 < exact lowering d v) := by
    rw [← Count.outside_iff, h]
    exact Bool.false_ne_true
  omega

/-- Lowering by the least count: from zero it clamps to the greatest count, with a warning. -/
example : shift true ⟨Count.least, by decide, by decide⟩ Count.zero =
    (⟨Count.greatest, by decide, by decide⟩, some (.saturated true Count.least 0)) := by
  decide

/-- From minus one it lands exactly on the greatest count, without one. -/
example : shift true ⟨Count.least, by decide, by decide⟩ ⟨-1, by decide, by decide⟩ =
    (⟨Count.greatest, by decide, by decide⟩, none) := by
  decide

/-! ## Sequences of raises and lowers -/

/-- Raise or lower a count by each step of a sequence in turn (`true` for a lower). -/
def shiftAll (steps : List (Bool × Count)) (v : Count) : Count :=
  steps.foldl (fun v s => (shift s.1 s.2 v).1) v

/-- The exact sum of a sequence of raises and lowers. -/
def sumSigned : List (Bool × Count) → Int
  | [] => 0
  | s :: rest => signed s.1 s.2 + sumSigned rest

@[simp] theorem shiftAll_nil (v : Count) : shiftAll [] v = v := rfl

theorem shiftAll_cons (s : Bool × Count) (rest : List (Bool × Count)) (v : Count) :
    shiftAll (s :: rest) v = shiftAll rest (shift s.1 s.2 v).1 := rfl

@[simp] theorem sumSigned_nil : sumSigned [] = 0 := rfl

theorem sumSigned_cons (s : Bool × Count) (rest : List (Bool × Count)) :
    sumSigned (s :: rest) = signed s.1 s.2 + sumSigned rest := rfl

/-- A sequence of raises and lowers whose exact running counts all stay in range ends at the
exact sum: no step is clamped. -/
theorem shiftAll_val (v : Count) (steps : List (Bool × Count))
    (hrange : ∀ k ≤ steps.length, Count.outside (v.val + sumSigned (steps.take k)) = false) :
    (shiftAll steps v).val = v.val + sumSigned steps := by
  induction steps generalizing v with
  | nil => simp
  | cons s rest ih =>
    -- the first step lands in range, so it is exact, and the rest starts from its result
    have hfirst : Count.outside (exact s.1 s.2 v) = false := by
      have h1 := hrange 1 (by simp)
      simpa [sumSigned, exact_eq_add_signed] using h1
    have hval := shift_val_of_inside hfirst
    rw [exact_eq_add_signed] at hval
    have hrest : ∀ k ≤ rest.length,
        Count.outside ((shift s.1 s.2 v).1.val + sumSigned (rest.take k)) = false := by
      intro k hk
      have hk1 := hrange (k + 1) (by simpa using hk)
      rw [List.take_succ_cons, sumSigned_cons, ← Int.add_assoc, ← hval] at hk1
      exact hk1
    rw [shiftAll_cons, ih _ hrest, hval, sumSigned_cons, Int.add_assoc]

end CounterCommand

/-! ## A raise or a lower on the threads of a gate -/

namespace Machine

variable {m : Machine Count} {t : Nat} {lowering : Bool} {d : Count}

/-- The critical section of a raise or a lower: the clamped count, every waiter woken, and the
warning, if any, still to hand over. -/
theorem start_shift (g : Gate Count) :
    (Op.shift lowering d).start g =
      { gate := { g with value := (CounterCommand.shift lowering d g.value).1 },
        pc := Pc.announce (CounterCommand.shift lowering d g.value).2,
        wakes := { waiters := true } } := rfl

/-- The atomic gate leaves the clamped count of a raise or a lower and keeps the flag. -/
theorem atomic_shift (g : Gate Count) (expired : Bool) :
    (Op.shift lowering d).atomic g expired =
      some ((CounterCommand.shift lowering d g.value).1, g.enabled, .none) := rfl

/-- A sequential history of raises and lowers, in the order they took effect, ends on their clamped
running count from the count it starts on, and keeps the flag. -/
theorem sequential_shifts {s s' : Count × Bool} {es : List (Effect Count)}
    (h : Sequential s es s') {shifts : List (Bool × Count)}
    (hops : es.map Effect.op = shifts.map fun p => Op.shift p.1 p.2) :
    s'.1 = CounterCommand.shiftAll shifts s.1 ∧ s'.2 = s.2 := by
  induction h generalizing shifts with
  | nil s =>
    cases shifts with
    | nil => exact ⟨rfl, rfl⟩
    | cons p rest => cases hops
  | @cons e es s' hatomic _ ih =>
    cases shifts with
    | nil => cases hops
    | cons p rest =>
      simp only [List.map_cons, List.cons.injEq] at hops
      -- the first effect is the atomic raise or lower, the rest starts on the count it left
      rw [hops.1, atomic_shift] at hatomic
      simp only [Option.some.injEq, Prod.mk.injEq] at hatomic
      obtain ⟨hvalue, henabled, -⟩ := hatomic
      obtain ⟨hrest, hflag⟩ := ih hops.2
      exact ⟨by rw [hrest, CounterCommand.shiftAll_cons, hvalue], by rw [hflag, henabled]⟩

/-- A run whose calls that take effect are raises and lowers ends on their clamped running count,
in the order they took effect, and keeps the flag; when the exact running counts stay in range, it
ends on the exact sum. -/
theorem exec_shifts {m m' : Machine Count} {steps : List (Nat × Act Count)}
    (h : m.exec steps = some m') {shifts : List (Bool × Count)}
    (hops : (m.history steps).map Effect.op = shifts.map fun p => Op.shift p.1 p.2) :
    m'.gate.value = CounterCommand.shiftAll shifts m.gate.value ∧
      m'.gate.enabled = m.gate.enabled ∧
      ((∀ k ≤ shifts.length,
          Count.outside (m.gate.value.val + CounterCommand.sumSigned (shifts.take k)) = false) →
        m'.gate.value.val = m.gate.value.val + CounterCommand.sumSigned shifts) := by
  obtain ⟨hvalue, hflag⟩ := sequential_shifts (exec_sequential h) hops
  dsimp only at hvalue hflag
  exact ⟨hvalue, hflag, fun hrange => by rw [hvalue]; exact CounterCommand.shiftAll_val _ _ hrange⟩

/-- Saturating arithmetic on a counter. A raise (`lowering = false`) or a lower by `d` is one
critical section: it leaves the exact integer result clamped into `[-2 ^ 63, 2 ^ 63 - 1]`, keeps the
flag and the count of waiters, and wakes every other thread asleep in a wait. It offers nothing in
that critical section. When the exact result is in range the call has returned; when it is out of
range the thread hands exactly one line to the sink next, a warning that names the direction, the
amount and the count it started from, and then returns. A sequence of raises and lowers whose exact
running counts stay in range ends at the exact sum; and on the threads, every run whose calls that
take effect are raises and lowers ends on their clamped running count, in the order they took
effect, with the flag kept, so at their exact sum when the running counts stay in range. -/
theorem shift_saturates (ht : m.threads[t]? = some (.call (Op.shift lowering d))) :
    (∃ m₁, m.step t .run = some m₁ ∧
      m₁.gate.value.val = min (max (CounterCommand.exact lowering d m.gate.value)
        (-9223372036854775808)) 9223372036854775807 ∧
      m₁.gate.enabled = m.gate.enabled ∧ m₁.gate.waiting = m.gate.waiting ∧
      (∀ u, u ≠ t → m₁.threads[u]? = m.threads[u]?.map (Pc.wake { waiters := true })) ∧
      m₁.offered = m.offered ∧
      (Count.outside (CounterCommand.exact lowering d m.gate.value) = false →
        m₁.threads[t]? = some (.returned .none)) ∧
      (Count.outside (CounterCommand.exact lowering d m.gate.value) = true →
        m₁.threads[t]? = some (.emit (.saturated lowering d.val m.gate.value.val) false) ∧
        ∃ m₂, m₁.step t .run = some m₂ ∧ m₂.gate = m₁.gate ∧
          m₂.threads[t]? = some (.returned .none) ∧
          m₂.offered = m.offered ++ [(t, .saturated lowering d.val m.gate.value.val)])) ∧
    (∀ label, (Notice.saturated lowering d.val m.gate.value.val).level = .warn ∧
      (Notice.saturated lowering d.val m.gate.value.val).message label =
        "[" ++ label ++ "] " ++ (if lowering then "decrease" else "increase") ++ " by " ++
          toString d.val ++ " from " ++ toString m.gate.value.val ++ " saturated") ∧
    (∀ (v : Count) (steps : List (Bool × Count)),
      (∀ k ≤ steps.length,
        Count.outside (v.val + CounterCommand.sumSigned (steps.take k)) = false) →
      (CounterCommand.shiftAll steps v).val = v.val + CounterCommand.sumSigned steps) ∧
    (∀ (m₀ m₁ : Machine Count) (steps : List (Nat × Act Count)) (shifts : List (Bool × Count)),
      m₀.exec steps = some m₁ →
      (m₀.history steps).map Effect.op = shifts.map (fun p => Op.shift p.1 p.2) →
      m₁.gate.value = CounterCommand.shiftAll shifts m₀.gate.value ∧
        m₁.gate.enabled = m₀.gate.enabled ∧
        ((∀ k ≤ shifts.length,
            Count.outside (m₀.gate.value.val + CounterCommand.sumSigned (shifts.take k)) = false) →
          m₁.gate.value.val = m₀.gate.value.val + CounterCommand.sumSigned shifts)) := by
  refine ⟨?_, fun label => ⟨rfl, rfl⟩, CounterCommand.shiftAll_val,
    fun _ _ _ _ h hops => exec_shifts h hops⟩
  have hlen := (List.getElem?_eq_some_iff.mp ht).1
  have hpc : (m.apply t ((Op.shift lowering d).start m.gate)).threads[t]? =
      some (Pc.announce (CounterCommand.shift lowering d m.gate.value).2) := by
    rw [apply_self hlen, start_shift]
  rw [CounterCommand.shift_notice] at hpc
  refine ⟨_, step_call ht, CounterCommand.shift_val lowering d m.gate.value, rfl, rfl,
    fun u hu => apply_other m hu _, by simp [apply, start_shift], fun hin => ?_, fun hout => ?_⟩
  · -- in range: no warning, so the call has returned
    rw [hpc, hin]
    rfl
  · -- out of range: the warning is handed over in the next step, and the call returns
    rw [hout] at hpc
    have hemit : (m.apply t ((Op.shift lowering d).start m.gate)).threads[t]? =
        some (.emit (.saturated lowering d.val m.gate.value.val) false) := hpc
    refine ⟨hemit, _, step_emit hemit, rfl, apply_self (by simpa [apply] using hlen) _, ?_⟩
    simp [apply, start_shift]

/-- A thread about to lower a counter at zero by the least count. -/
def lowerByLeast : Machine Count :=
  { gate := ⟨Count.zero, true, 0⟩,
    threads := [.call (Op.shift true ⟨Count.least, by decide, by decide⟩)] }

/-- Lowering zero by the least count clamps to the greatest count and hands over one warning. -/
theorem lower_zero_by_least_saturates :
    ∃ m₁ m₂, lowerByLeast.step 0 .run = some m₁ ∧ m₁.step 0 .run = some m₂ ∧
      m₂.gate.value.val = Count.greatest ∧ m₂.offered = [(0, .saturated true Count.least 0)] := by
  obtain ⟨⟨m₁, hstep, hval, -, -, -, -, -, hout⟩, -, -, -⟩ :=
    @shift_saturates lowerByLeast 0 true ⟨Count.least, by decide, by decide⟩ rfl
  obtain ⟨-, m₂, hstep₂, hgate, -, hoffered⟩ := hout (by decide)
  refine ⟨m₁, m₂, hstep, hstep₂, ?_, hoffered⟩
  rw [hgate, hval]
  decide

end Machine

end WaitGate
