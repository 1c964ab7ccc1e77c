import Mathlib
import WaitGate.Proofs.Machine.Linearizable
/-!
# Units of a counter are taken once

A thread that waits for a positive count and takes one unit (`Op.takeOne`) checks the count and
lowers it in one critical section. Through the effects of a run (`Machine.history`) this says:

* every take that meets its condition found a count of at least one and lowered it by exactly
  one, and every take that times out or finds the gate disabled left the count as it was
  (`Op.atomic_takeOne`);
* in a run whose calls only raise the count by amounts that fit, take units, or leave the count
  alone (`Op.Conserving`), starting from a count of at least zero, the count never goes below
  zero, and the units taken are the count it started with, plus what was added, minus the count
  it ends with (`Sequential.conserving`).

No unit is taken twice and none is lost: the count is the ledger.
-/

namespace WaitGate

namespace Count

/-- Lowering a positive count by one does not clamp. -/
theorem decrease_one_val {v : Count} (h : 0 < v.val) : (v.decrease one).1.val = v.val - 1 := by
  have hlt := v.lt_bound
  apply clamp_of_inside
  simp only [outside, one, Bool.or_eq_false_iff]
  exact ⟨decide_eq_false (by omega), decide_eq_false (by omega)⟩

end Count

/-- Raising a count by an amount that fits adds the amount. -/
theorem CounterCommand.shift_raise_val {d v : Count} (h : Count.outside (v.val + d.val) = false) :
    (CounterCommand.shift false d v).1.val = v.val + d.val := by
  simp only [CounterCommand.shift, Count.increase, Bool.false_eq_true, ↓reduceIte]
  exact Count.clamp_of_inside _ h

/-! ## Taking one unit -/

/-- Taking one unit, as the atomic gate does it: it meets its condition on a count of at least one
and lowers it by exactly one, or it times out or finds the gate disabled and leaves the count
alone. -/
theorem Op.atomic_takeOne {g : Gate Count} {expired timed : Bool} {v : Count} {enabled : Bool}
    {reply : Reply Count} (h : (Op.takeOne timed).atomic g expired = some (v, enabled, reply)) :
    (reply = .outcome .conditionMet ∧ 1 ≤ g.value.val ∧ v.val = g.value.val - 1) ∨
      ((reply = .outcome .timeout ∨ reply = .outcome .disabled) ∧ v = g.value) := by
  simp only [Op.takeOne, Op.atomic] at h
  split at h
  · by_cases hpos : 0 < g.value.val
    · -- a positive count: the unit is taken in the same critical section
      have hc : CounterCommand.takeOne.check g.value = .holds := by
        simp [CounterCommand.takeOne, Verdict.ofBool, hpos]
      simp only [hc, Option.some.injEq, Prod.mk.injEq] at h
      obtain ⟨hv, -, hr⟩ := h
      refine .inl ⟨hr.symm, by omega, ?_⟩
      rw [← hv]
      exact Count.decrease_one_val hpos
    · have hc : CounterCommand.takeOne.check g.value = .fails := by
        simp [CounterCommand.takeOne, Verdict.ofBool, hpos]
      simp only [hc] at h
      split at h
      · simp only [Option.some.injEq, Prod.mk.injEq] at h
        exact .inr ⟨.inl h.2.2.symm, h.1.symm⟩
      · cases h
  · simp only [Option.some.injEq, Prod.mk.injEq] at h
    exact .inr ⟨.inr h.2.2.symm, h.1.symm⟩

/-- A wait with no action leaves the value alone. -/
theorem Op.atomic_wait_keeps {α : Type} {g : Gate α} {expired timed : Bool} {r : Request α}
    {v : α} {enabled : Bool} {reply : Reply α} (hr : r.action = none)
    (h : (Op.wait r timed).atomic g expired = some (v, enabled, reply)) : v = g.value := by
  simp only [Op.atomic] at h
  split at h
  · split at h
    · simp only [Option.some.injEq, Prod.mk.injEq] at h
      rw [← h.1]
      simp [Request.apply, hr]
    · simp only [Option.some.injEq, Prod.mk.injEq] at h
      exact h.1.symm
    · split at h
      · simp only [Option.some.injEq, Prod.mk.injEq] at h
        exact h.1.symm
      · cases h
  · simp only [Option.some.injEq, Prod.mk.injEq] at h
    exact h.1.symm

/-! ## The ledger of a run -/

/-- Whether an effect took a unit: a wait with an action that met its condition. -/
def Effect.took {α : Type} (e : Effect α) : Bool :=
  match e.op, e.reply with
  | .wait r _, .outcome .conditionMet => r.action.isSome
  | _, _ => false

/-- What an effect raised a counter by: the amount of an adjustment, nothing for other calls. -/
def Effect.raised (e : Effect Count) : Int :=
  match e.op with
  | .adjust d _ => d.val
  | _ => 0

/-- The calls of a counter, found at count `v`, that keep its ledger: a raise by a non-negative
amount that fits, taking one unit, and the calls that leave the count alone. -/
inductive Op.Conserving (v : Count) : Op Count → Prop
  | raise {d : Count} (hd : 0 ≤ d.val) (hfits : Count.outside (v.val + d.val) = false) :
      Op.Conserving v (Op.shift false d)
  | take (timed : Bool) : Op.Conserving v (Op.takeOne timed)
  | look (r : Request Count) (timed : Bool) (hr : r.action = none) :
      Op.Conserving v (.wait r timed)
  | read : Op.Conserving v .read
  | isEnabled : Op.Conserving v .isEnabled
  | waitingCount : Op.Conserving v .waitingCount
  | enable : Op.Conserving v .enable
  | disable : Op.Conserving v .disable
  | drain : Op.Conserving v .drain

/-- One effect of a conserving call keeps the ledger: the count after it and the unit it took
make up the count before it and what it raised the count by; a unit is taken only from a count
of at least one, and nothing is raised by a negative amount. -/
theorem Effect.balance {e : Effect Count} (hc : Op.Conserving e.gate.value e.op)
    (h : e.op.atomic e.gate e.expired = some (e.value, e.enabled, e.reply)) :
    e.value.val + (e.took.toNat : Int) = e.gate.value.val + e.raised ∧
      (e.took = true → 1 ≤ e.gate.value.val) ∧ 0 ≤ e.raised := by
  obtain ⟨thread, op, g, expired, v, enabled, reply⟩ := e
  simp only at hc h ⊢
  cases hc with
  | raise hd hfits =>
    simp only [Op.shift, Op.atomic, Option.some.injEq, Prod.mk.injEq] at h
    have hval := CounterCommand.shift_raise_val hfits
    rw [h.1] at hval
    simp only [Effect.took, Effect.raised, Op.shift, Bool.toNat_false]
    exact ⟨by omega, fun h => absurd h Bool.false_ne_true, hd⟩
  | take timed =>
    have hraised : Effect.raised ⟨thread, Op.takeOne timed, g, expired, v, enabled, reply⟩ = 0 :=
      rfl
    rw [hraised]
    rcases Op.atomic_takeOne h with ⟨rfl, hpos, hv⟩ | ⟨hreply, rfl⟩
    · -- the unit taken is the one the count lost
      have htook : Effect.took ⟨thread, Op.takeOne timed, g, expired, v, enabled,
          .outcome .conditionMet⟩ = true := rfl
      rw [htook, Bool.toNat_true]
      exact ⟨by omega, fun _ => hpos, by omega⟩
    · have htook : Effect.took ⟨thread, Op.takeOne timed, g, expired, g.value, enabled, reply⟩ =
          false := by
        rcases hreply with rfl | rfl <;> rfl
      rw [htook, Bool.toNat_false]
      exact ⟨by omega, fun h => absurd h Bool.false_ne_true, by omega⟩
  | look r timed hr =>
    have hv := Op.atomic_wait_keeps hr h
    subst hv
    have htook : Effect.took ⟨thread, .wait r timed, g, expired, g.value, enabled, reply⟩ =
        false := by
      unfold Effect.took
      split <;> simp_all
    simp only [htook, Effect.raised, Bool.toNat_false]
    exact ⟨by omega, fun h => absurd h Bool.false_ne_true, by omega⟩
  | read | isEnabled | waitingCount | enable | disable | drain =>
    simp only [Op.atomic, Option.some.injEq, Prod.mk.injEq] at h
    obtain ⟨rfl, -⟩ := h
    simp only [Effect.took, Effect.raised, Bool.toNat_false]
    exact ⟨by omega, fun h => absurd h Bool.false_ne_true, by omega⟩

namespace Sequential

variable {α : Type}

/-- Every effect of a sequential history is what the atomic gate does. -/
theorem atomic {s s' : α × Bool} {es : List (Effect α)} (h : Sequential s es s') :
    ∀ e ∈ es, e.op.atomic e.gate e.expired = some (e.value, e.enabled, e.reply) := by
  induction h with
  | nil => simp
  | cons hatomic _ ih =>
    intro e he
    rcases List.mem_cons.mp he with rfl | hmem
    · exact hatomic
    · exact ih e hmem

/-- A sequential history of conserving calls from a count of at least zero keeps the count at
least zero, and the units it takes are the count it starts from, plus what it raises the count by,
minus the count it ends on. -/
theorem conserving {s s' : Count × Bool} {es : List (Effect Count)} (h : Sequential s es s')
    (hc : ∀ e ∈ es, Op.Conserving e.gate.value e.op) (h0 : 0 ≤ s.1.val) :
    0 ≤ s'.1.val ∧
      s'.1.val + (es.countP Effect.took : Int) = s.1.val + (es.map Effect.raised).sum := by
  induction h with
  | nil => exact ⟨h0, by simp⟩
  | @cons e es s' hatomic _ ih =>
    obtain ⟨hbal, hpos, hraised⟩ := Effect.balance (hc e List.mem_cons_self) hatomic
    simp only at h0 ih ⊢
    have htook : (e.took.toNat : Int) ≤ e.gate.value.val := by
      cases hb : e.took
      · simp only [Bool.toNat_false]
        omega
      · simp only [Bool.toNat_true]
        exact hpos hb
    -- the count after the first effect is again at least zero, and the rest keeps the ledger
    obtain ⟨hend, hrest⟩ := ih (fun e' he' => hc e' (List.mem_cons_of_mem _ he')) (by omega)
    have hcount : ((e :: es).countP Effect.took : Int) = e.took.toNat + es.countP Effect.took := by
      rw [List.countP_cons]
      cases e.took
      · simp only [Bool.false_eq_true, if_false, Bool.toNat_false]
        omega
      · simp only [if_true, Bool.toNat_true]
        omega
    refine ⟨hend, ?_⟩
    rw [hcount, List.map_cons, List.sum_cons]
    omega

end Sequential

/-! ## Runs of a counter -/

namespace Machine

/-- Units are taken once and none is lost. In every run of a counter, each take that meets its
condition does so on a count of at least one and lowers it by exactly one, in the critical section
of its check, and each take that times out or finds the gate disabled leaves the count alone. If
moreover the run starts from a count of at least zero and its calls only raise the count by
amounts that fit, take units, or leave the count alone, the count stays at least zero all along,
and the units taken are the first count, plus what was added, minus the last count. -/
theorem units_taken_once {m m' : Machine Count} {steps : List (Nat × Act Count)}
    (h : m.exec steps = some m') :
    (∀ e ∈ m.history steps, ∀ timed, e.op = Op.takeOne timed →
      (e.reply = .outcome .conditionMet ∧ 1 ≤ e.gate.value.val ∧
          e.value.val = e.gate.value.val - 1) ∨
        ((e.reply = .outcome .timeout ∨ e.reply = .outcome .disabled) ∧ e.value = e.gate.value)) ∧
    (0 ≤ m.gate.value.val → (∀ e ∈ m.history steps, Op.Conserving e.gate.value e.op) →
      (∀ k m₁, m.exec (steps.take k) = some m₁ → 0 ≤ m₁.gate.value.val) ∧
      ((m.history steps).countP Effect.took : Int) =
        m.gate.value.val + ((m.history steps).map Effect.raised).sum - m'.gate.value.val) := by
  have hseq := exec_sequential h
  refine ⟨fun e he timed hop => ?_, fun h0 hc => ⟨fun k m₁ hprefix => ?_, ?_⟩⟩
  · have hatomic := hseq.atomic e he
    rw [hop] at hatomic
    exact Op.atomic_takeOne hatomic
  · -- a prefix of the run records a prefix of its history
    have happend := history_append hprefix (steps.drop k)
    rw [List.take_append_drop] at happend
    have hc' : ∀ e ∈ m.history (steps.take k), Op.Conserving e.gate.value e.op :=
      fun e he => hc e (by rw [happend]; exact List.mem_append_left _ he)
    exact ((exec_sequential hprefix).conserving hc' h0).1
  · have := (hseq.conserving hc h0).2
    simp only at this
    omega

/-- On a counter at zero, a taker falls asleep, another thread raises the count by one and the
taker takes the unit: one unit taken, the one added. -/
theorem units_taken_raise_then_take :
    (((Machine.init Count.zero true 2).history raiseThenTake).countP Effect.took : Int) =
      Count.zero.val + (((Machine.init Count.zero true 2).history raiseThenTake).map
        Effect.raised).sum - Count.zero.val := by
  have hrun : (Machine.init Count.zero true 2).exec raiseThenTake = some _ := rfl
  have hhistory : (Machine.init Count.zero true 2).history raiseThenTake =
      [{ thread := 1, op := Op.shift false Count.one, gate := ⟨Count.zero, true, 1⟩,
          expired := false, value := Count.one, enabled := true, reply := .none },
        { thread := 0, op := Op.takeOne false, gate := ⟨Count.one, true, 1⟩, expired := false,
          value := Count.zero, enabled := true, reply := .outcome .conditionMet }] := rfl
  have hc : ∀ e ∈ (Machine.init Count.zero true 2).history raiseThenTake,
      Op.Conserving e.gate.value e.op := by
    rw [hhistory]
    intro e he
    simp only [List.mem_cons, List.not_mem_nil, or_false] at he
    rcases he with rfl | rfl
    · exact .raise (by decide) (by decide)
    · exact .take false
  exact ((units_taken_once hrun).2 (by decide) hc).2

end Machine

end WaitGate
