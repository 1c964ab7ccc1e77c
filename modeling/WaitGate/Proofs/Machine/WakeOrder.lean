import WaitGate.Proofs.Machine.Steps
/-!
# The order of a wake-up does not matter

When a change wakes the waiters, each woken waiter takes the lock again in some order. For waiters
whose wait only looks, with no action on the value, that order makes no difference: whatever the
order, every woken waiter ends with the same outcome, or asleep again, and the gate, the count of
waiters and the wake-up of a draining thread come out the same (`wake_order_irrelevant`).

## Strategy

A look with no action reads the value and the flag and writes neither. It changes only the count
of waiters, lowering it by one when the waiter leaves, and the wake-up it sends is for a draining
thread only, exactly when the count reaches zero on a disabled gate (`Turn.look_quiet_gate`,
`Turn.look_quiet_wakes`). Where a looker ends depends on the value and the flag alone
(`Turn.look_pc_waiting`). So two such looks commute (`apply_looks_comm`): on an enabled gate
neither wakes anybody, and on a disabled one both leave, so the counts they see, one then the
other, are the same either way. Every reordering is a chain of swaps of neighbours
(`exec_wakeRun_perm`, by induction on the permutation).

With a look that writes, the order does matter: two waiters that each take a unit from a count of
one cannot both have it. Settling a machine is deterministic only when such a waiter waits alone,
the restriction under which every settling run ends in the same machine (`settle_unique`).
-/

namespace WaitGate

variable {α : Type}

/-! ## A look that only looks -/

/-- Whether a woken waiter with request `r` leaves its wait when it looks at gate `g`: it goes back
to sleep only on an enabled gate whose value fails its condition. -/
def Request.leaves (r : Request α) (g : Gate α) : Bool :=
  !(g.enabled && decide (r.check g.value = .fails))

@[simp] theorem Request.leaves_waiting (r : Request α) (g : Gate α) (n : Nat) :
    r.leaves { g with waiting := n } = r.leaves g := rfl

theorem Request.leaves_of_disabled (r : Request α) {g : Gate α} (h : g.enabled = false) :
    r.leaves g = true := by
  simp [leaves, h]

namespace Turn

variable {g : Gate α} {r : Request α} {timed : Bool}

theorem look_pc (g : Gate α) (r : Request α) (timed last : Bool) :
    (Turn.look g r timed last).pc = Pc.ofLook r timed (g.look r last).2.1 := rfl

@[simp] theorem look_notice (g : Gate α) (r : Request α) (timed last : Bool) :
    (Turn.look g r timed last).notice = none := rfl

/-- Where a look leaves its waiter does not depend on the count of waiters. -/
theorem look_pc_waiting (n : Nat) (last : Bool) :
    (Turn.look { g with waiting := n } r timed last).pc = (Turn.look g r timed last).pc := by
  rw [look_pc, look_pc]
  -- split on the flag without rewriting it inside the other gate
  rcases Bool.eq_false_or_eq_true g.enabled with he | he
  · cases hc : r.check g.value with
    | holds =>
      rw [Gate.look_of_holds { g with waiting := n } r last he hc,
        Gate.look_of_holds g r last he hc]
    | fails =>
      rw [Gate.look_of_fails { g with waiting := n } r last he hc,
        Gate.look_of_fails g r last he hc]
      cases last <;> rfl
    | aborts =>
      rw [Gate.look_of_aborts { g with waiting := n } r last he hc,
        Gate.look_of_aborts g r last he hc]
  · rw [Gate.look_of_disabled { g with waiting := n } r last he, Gate.look_of_disabled g r last he]

/-- A woken look with no action lowers the count of waiters by one when the waiter leaves, and
changes nothing else on the gate. -/
theorem look_quiet_gate (hr : r.action = none) :
    (Turn.look g r timed false).gate = { g with waiting := g.waiting - (r.leaves g).toNat } := by
  rcases Bool.eq_false_or_eq_true g.enabled with he | he
  · cases hc : r.check g.value with
    | holds =>
      simp [Turn.look, Gate.look_of_holds g r false he hc, Gate.leave, Request.leaves, he, hc,
        hr, Request.apply]
    | fails =>
      -- the waiter goes back to sleep, and the gate is untouched
      have hstays : r.leaves g = false := by simp [Request.leaves, he, hc]
      rw [hstays, Bool.toNat_false, Nat.sub_zero]
      simp [Turn.look, Gate.look_of_fails g r false he hc]
    | aborts =>
      simp [Turn.look, Gate.look_of_aborts g r false he hc, Gate.leave, Request.leaves, he, hc]
  · simp [Turn.look, Gate.look_of_disabled g r false he, Gate.leave, Request.leaves, he]

/-- A woken look with no action wakes no waiter, and wakes a draining thread exactly when it
leaves a disabled gate with nobody inside a wait. -/
theorem look_quiet_wakes (hr : r.action = none) :
    (Turn.look g r timed false).wakes = { drainer := g.waiting - 1 == 0 && !g.enabled } := by
  cases he : g.enabled
  · simp [Turn.look, Gate.look_of_disabled g r false he, Gate.leave, he]
  · cases hc : r.check g.value with
    | holds =>
      simp [Turn.look, Gate.look_of_holds g r false he hc, Gate.leave, he, hr, Request.apply]
    | fails => simp [Turn.look, Gate.look_of_fails g r false he hc]
    | aborts => simp [Turn.look, Gate.look_of_aborts g r false he hc, Gate.leave, he]

/-- A wake-up that is not for waiters leaves a waiter where its look put it. -/
theorem look_pc_wake {w : Wakes} (hw : w.waiters = false) (g : Gate α) (r : Request α)
    (timed last : Bool) :
    (Turn.look g r timed last).pc.wake w = (Turn.look g r timed last).pc := by
  rw [look_pc]
  cases (g.look r last).2.1 <;> simp [Pc.ofLook, Pc.wake, hw]

end Turn

/-! ## Two looks commute -/

namespace Machine

/-- Thread `t` is asleep inside a wait with no action and has been woken: all it does when it
takes the lock is look. -/
def WokenLooker (m : Machine α) (t : Nat) : Prop :=
  ∃ r timed, m.threads[t]? = some (.parked r timed true) ∧ r.action = none

/-- The run in which the threads of `ts` take the lock in turn. -/
def wakeRun (ts : List Nat) : List (Nat × Act α) := ts.map (·, .run)

@[simp] theorem wakeRun_nil : (wakeRun [] : List (Nat × Act α)) = [] := rfl

@[simp] theorem wakeRun_cons (t : Nat) (ts : List Nat) :
    (wakeRun (t :: ts) : List (Nat × Act α)) = (t, .run) :: wakeRun ts := rfl

variable {m : Machine α} {t u : Nat}

/-- Another thread's step leaves a woken looker woken. -/
theorem WokenLooker.apply_other (h : m.WokenLooker u) (hu : u ≠ t) (turn : Turn α) :
    (m.apply t turn).WokenLooker u := by
  obtain ⟨r, timed, hpc, hr⟩ := h
  refine ⟨r, timed, ?_, hr⟩
  rw [Machine.apply_other m hu, hpc]
  simp [Pc.wake]

/-- Two woken looks, one after the other, give the same machine in either order. -/
theorem apply_looks_comm {r₁ r₂ : Request α} {timed₁ timed₂ : Bool} (hr₁ : r₁.action = none)
    (hr₂ : r₂.action = none) (htu : t ≠ u) :
    (m.apply t (Turn.look m.gate r₁ timed₁ false)).apply u
        (Turn.look (Turn.look m.gate r₁ timed₁ false).gate r₂ timed₂ false) =
      (m.apply u (Turn.look m.gate r₂ timed₂ false)).apply t
        (Turn.look (Turn.look m.gate r₂ timed₂ false).gate r₁ timed₁ false) := by
  -- the second look sees the first one's gate, which differs from the first only in its count
  have hgate₁ : (Turn.look m.gate r₁ timed₁ false).gate =
      { m.gate with waiting := m.gate.waiting - (r₁.leaves m.gate).toNat } :=
    Turn.look_quiet_gate hr₁
  have hgate₂ : (Turn.look m.gate r₂ timed₂ false).gate =
      { m.gate with waiting := m.gate.waiting - (r₂.leaves m.gate).toNat } :=
    Turn.look_quiet_gate hr₂
  have hpc₁ : (Turn.look (Turn.look m.gate r₂ timed₂ false).gate r₁ timed₁ false).pc =
      (Turn.look m.gate r₁ timed₁ false).pc := by
    rw [hgate₂, Turn.look_pc_waiting]
  have hpc₂ : (Turn.look (Turn.look m.gate r₁ timed₁ false).gate r₂ timed₂ false).pc =
      (Turn.look m.gate r₂ timed₂ false).pc := by
    rw [hgate₁, Turn.look_pc_waiting]
  -- on a disabled gate both waiters leave, so each order sees the same counts
  have hsecond : (Turn.look (Turn.look m.gate r₁ timed₁ false).gate r₂ timed₂ false).wakes =
      (Turn.look (Turn.look m.gate r₂ timed₂ false).gate r₁ timed₁ false).wakes := by
    rw [Turn.look_quiet_wakes hr₂, Turn.look_quiet_wakes hr₁, hgate₁, hgate₂]
    cases he : m.gate.enabled
    · simp [Request.leaves_of_disabled r₁ he, Request.leaves_of_disabled r₂ he]
    · simp
  have hfirst : (Turn.look m.gate r₁ timed₁ false).wakes =
      (Turn.look m.gate r₂ timed₂ false).wakes := by
    rw [Turn.look_quiet_wakes hr₁, Turn.look_quiet_wakes hr₂]
  have hquiet : (Turn.look (Turn.look m.gate r₁ timed₁ false).gate r₂ timed₂ false).wakes.waiters
      = false := by
    rw [Turn.look_quiet_wakes hr₂]
  simp only [apply, Turn.look_notice, Option.map_none, Option.toList_none, List.append_nil]
  congr 1
  · rw [hgate₁, hgate₂, Turn.look_quiet_gate hr₂, Turn.look_quiet_gate hr₁]
    simp only [Request.leaves_waiting]
    congr 1
    omega
  · rw [hfirst, ← hsecond, hpc₁, hpc₂, List.map_set, List.map_set, Turn.look_pc_wake hquiet,
      Turn.look_pc_wake hquiet, List.set_comm _ _ htu]

/-- Two woken lookers may take the lock in either order: the runs that follow start from the same
machine. -/
theorem exec_swap (ht : m.WokenLooker t) (hu : m.WokenLooker u) (htu : t ≠ u)
    (rest : List (Nat × Act α)) :
    m.exec ((u, .run) :: (t, .run) :: rest) = m.exec ((t, .run) :: (u, .run) :: rest) := by
  obtain ⟨r₁, timed₁, hpc₁, hr₁⟩ := ht
  obtain ⟨r₂, timed₂, hpc₂, hr₂⟩ := hu
  have hpc₂' : (m.apply t (Turn.look m.gate r₁ timed₁ false)).threads[u]? =
      some (.parked r₂ timed₂ true) := by
    rw [Machine.apply_other m (Ne.symm htu), hpc₂]
    simp [Pc.wake]
  have hpc₁' : (m.apply u (Turn.look m.gate r₂ timed₂ false)).threads[t]? =
      some (.parked r₁ timed₁ true) := by
    rw [Machine.apply_other m htu, hpc₁]
    simp [Pc.wake]
  rw [exec_cons, step_woken hpc₂, Option.bind_some, exec_cons, step_woken hpc₁', Option.bind_some,
    exec_cons, step_woken hpc₁, Option.bind_some, exec_cons, step_woken hpc₂', Option.bind_some]
  simp only [apply_gate]
  rw [apply_looks_comm hr₁ hr₂ htu]

/-! ## Every order of the woken lookers -/

/-- Woken lookers, each once, all take their look: the run of their looks goes through. -/
theorem exec_wakeRun_some {ts : List Nat} (hnodup : ts.Nodup) (hw : ∀ t ∈ ts, m.WokenLooker t) :
    ∃ m', m.exec (wakeRun ts) = some m' := by
  induction ts generalizing m with
  | nil => exact ⟨m, rfl⟩
  | cons t rest ih =>
    obtain ⟨r, timed, hpc, -⟩ := hw t List.mem_cons_self
    obtain ⟨ht, hrest⟩ := List.nodup_cons.mp hnodup
    -- the others are still woken lookers after the first one looked
    have hw' : ∀ u ∈ rest, (m.apply t (Turn.look m.gate r timed false)).WokenLooker u :=
      fun u hu => (hw u (List.mem_cons_of_mem _ hu)).apply_other
        (fun h => ht (by rw [← h]; exact hu)) _
    rw [wakeRun_cons, exec_cons, step_woken hpc, Option.bind_some]
    exact ih hrest hw'

/-- Any reordering of woken lookers, each once, reaches the same machine. -/
theorem exec_wakeRun_perm {ts ts' : List Nat} (hperm : ts.Perm ts') :
    ∀ m : Machine α, ts.Nodup → (∀ t ∈ ts, m.WokenLooker t) →
      m.exec (wakeRun ts') = m.exec (wakeRun ts) := by
  induction hperm with
  | nil => intro m _ _; rfl
  | cons x _ ih =>
    intro m hnodup hw
    obtain ⟨r, timed, hpc, -⟩ := hw x List.mem_cons_self
    obtain ⟨hx, hrest⟩ := List.nodup_cons.mp hnodup
    rw [wakeRun_cons, wakeRun_cons, exec_cons, exec_cons, step_woken hpc, Option.bind_some,
      Option.bind_some]
    exact ih _ hrest fun u hu =>
      (hw u (List.mem_cons_of_mem _ hu)).apply_other (fun h => hx (by rw [← h]; exact hu)) _
  | swap x y l =>
    -- neighbours that trade places: the one swap of two looks
    intro m hnodup hw
    have hyx : y ≠ x := fun h => (List.nodup_cons.mp hnodup).1 (h ▸ List.mem_cons_self)
    exact exec_swap (hw y List.mem_cons_self) (hw x (List.mem_cons_of_mem _ List.mem_cons_self))
      hyx _
  | trans h₁ _ ih₁ ih₂ =>
    intro m hnodup hw
    rw [ih₂ m (h₁.nodup_iff.mp hnodup) (fun t ht => hw t (h₁.mem_iff.mpr ht)), ih₁ m hnodup hw]

/-! ## Settling -/

/-- Thread `t` is asleep inside a wait and has been woken. -/
def Woken (m : Machine α) (t : Nat) : Prop := ∃ r timed, m.threads[t]? = some (.parked r timed true)

/-- A run that settles a machine: threads woken inside a wait take the lock one after another, and
nobody else moves, until no thread is left woken inside a wait. -/
inductive Settles : Machine α → List Nat → Machine α → Prop
  | done {m : Machine α} (h : ∀ t, ¬m.Woken t) : Settles m [] m
  | look {m m₁ m' : Machine α} {t : Nat} {ts : List Nat} (ht : m.Woken t)
      (hstep : m.step t .run = some m₁) (rest : Settles m₁ ts m') : Settles m (t :: ts) m'

theorem Settles.exec {ts : List Nat} {m' : Machine α} (h : Settles m ts m') :
    m.exec (wakeRun ts) = some m' := by
  induction h with
  | done _ => rfl
  | look _ hstep _ ih => rw [wakeRun_cons, exec_cons, hstep, Option.bind_some, ih]

/-- The restriction under which settling is deterministic: every wait only looks, or at most one
thread is inside a wait. -/
def ModifierAlone (m : Machine α) : Prop :=
  (∀ (t : Nat) (r : Request α) (timed w : Bool), m.threads[t]? = some (.parked r timed w) →
    r.action = none) ∨
  ∀ (t u : Nat) (r r' : Request α) (timed timed' w w' : Bool),
    m.threads[t]? = some (.parked r timed w) → m.threads[u]? = some (.parked r' timed' w') → t = u

/-- A look never leaves its waiter woken. -/
theorem Turn.look_pc_ne_woken {g : Gate α} {r r' : Request α} {timed timed' last : Bool} :
    (Turn.look g r timed last).pc ≠ .parked r' timed' true := by
  rw [Turn.look_pc]
  cases (g.look r last).2.1 <;> simp [Pc.ofLook]

/-- After a woken waiter's look, a thread inside a wait was inside the same wait before. -/
theorem parked_of_apply_look {r r' : Request α} {timed timed' w' : Bool} {v : Nat}
    (hpc : m.threads[t]? = some (.parked r timed true))
    (h : (m.apply t (Turn.look m.gate r timed false)).threads[v]? = some (.parked r' timed' w')) :
    ∃ w, m.threads[v]? = some (.parked r' timed' w) := by
  by_cases hv : v = t
  · subst hv
    rw [getElem?_apply_self hpc, Turn.look_pc, Option.some.injEq] at h
    -- a look that leaves its waiter inside the wait keeps its request
    cases hl : (m.gate.look r false).2.1 <;> simp [hl, Pc.ofLook] at h
    obtain ⟨rfl, rfl, -⟩ := h
    exact ⟨true, hpc⟩
  · rw [Machine.apply_other m hv] at h
    cases hpcv : m.threads[v]? with
    | none => simp [hpcv] at h
    | some pc =>
      rw [hpcv, Option.map_some, Option.some.injEq] at h
      cases pc <;> simp [Pc.wake] at h
      obtain ⟨rfl, rfl, -⟩ := h
      exact ⟨_, rfl⟩

theorem ModifierAlone.apply_look {r : Request α} {timed : Bool} (h : m.ModifierAlone)
    (hpc : m.threads[t]? = some (.parked r timed true)) :
    (m.apply t (Turn.look m.gate r timed false)).ModifierAlone := by
  rcases h with hquiet | halone
  · refine .inl fun v r' timed' w' hv => ?_
    obtain ⟨w, hw⟩ := parked_of_apply_look hpc hv
    exact hquiet v r' timed' w hw
  · refine .inr fun v v' r₁ r₂ timed₁ timed₂ w₁ w₂ hv hv' => ?_
    obtain ⟨_, hw₁⟩ := parked_of_apply_look hpc hv
    obtain ⟨_, hw₂⟩ := parked_of_apply_look hpc hv'
    exact halone _ _ _ _ _ _ _ _ hw₁ hw₂

/-- Under the restriction, a woken waiter's look wakes no other waiter: either it has no action,
or there is no other waiter to wake. So the threads woken after it are the ones woken before,
itself apart. -/
theorem ModifierAlone.woken_apply_look {r : Request α} {timed : Bool} (h : m.ModifierAlone)
    (hpc : m.threads[t]? = some (.parked r timed true)) (v : Nat) :
    (m.apply t (Turn.look m.gate r timed false)).Woken v ↔ v ≠ t ∧ m.Woken v := by
  constructor
  · rintro ⟨r', timed', hv⟩
    have hvt : v ≠ t := by
      rintro rfl
      rw [getElem?_apply_self hpc, Option.some.injEq] at hv
      exact Turn.look_pc_ne_woken hv
    refine ⟨hvt, r', timed', ?_⟩
    rw [Machine.apply_other m hvt] at hv
    cases hpcv : m.threads[v]? with
    | none => simp [hpcv] at hv
    | some pc =>
      rw [hpcv, Option.map_some, Option.some.injEq] at hv
      cases pc with
      | parked r₀ timed₀ w₀ =>
        simp only [Pc.wake, Pc.parked.injEq] at hv
        obtain ⟨rfl, rfl, hw⟩ := hv
        cases w₀
        · -- woken only by this look, which wakes waiters only if it has an action
          rcases h with hquiet | halone
          · rw [Turn.look_quiet_wakes (hquiet t r timed true hpc)] at hw
            cases hw
          · exact absurd (halone v t _ _ _ _ _ _ hpcv hpc) hvt
        · rfl
      | _ => simp [Pc.wake] at hv
  · rintro ⟨hvt, r', timed', hv⟩
    refine ⟨r', timed', ?_⟩
    rw [Machine.apply_other m hvt, hv]
    simp [Pc.wake]

/-- Under the restriction, a settling run lets exactly the threads woken at its start look, each
once. -/
theorem ModifierAlone.settles_woken {ts : List Nat} {m' : Machine α} (h : m.ModifierAlone)
    (hs : Settles m ts m') : ts.Nodup ∧ ∀ v, v ∈ ts ↔ m.Woken v := by
  induction hs with
  | done hnone =>
    exact ⟨List.nodup_nil, fun v => ⟨fun hv => (by cases hv), fun hv => (hnone v hv).elim⟩⟩
  | @look m m₁ m' t ts ht hstep _ ih =>
    obtain ⟨r, timed, hpc⟩ := ht
    rw [step_woken hpc, Option.some.injEq] at hstep
    subst hstep
    obtain ⟨hnodup, hmem⟩ := ih (h.apply_look hpc)
    have hwoken := h.woken_apply_look hpc
    refine ⟨List.nodup_cons.mpr ⟨fun hts => ((hwoken t).mp ((hmem t).mp hts)).1 rfl, hnodup⟩,
      fun v => ?_⟩
    rw [List.mem_cons, hmem v, hwoken v]
    by_cases hvt : v = t
    · subst hvt
      exact ⟨fun _ => ⟨r, timed, hpc⟩, fun _ => .inl rfl⟩
    · exact ⟨fun hv => hv.resolve_left hvt |>.2, fun hv => .inr ⟨hvt, hv⟩⟩

/-- Under the restriction, every settling run ends in the same machine. -/
theorem settle_unique {ts₁ ts₂ : List Nat} {m₁ m₂ : Machine α} (h : m.ModifierAlone)
    (hs₁ : Settles m ts₁ m₁) (hs₂ : Settles m ts₂ m₂) : m₁ = m₂ := by
  obtain ⟨hnodup₁, hmem₁⟩ := h.settles_woken hs₁
  obtain ⟨hnodup₂, hmem₂⟩ := h.settles_woken hs₂
  have hperm : ts₁.Perm ts₂ :=
    (List.perm_ext_iff_of_nodup hnodup₁ hnodup₂).mpr fun v => (hmem₁ v).trans (hmem₂ v).symm
  have hexec₁ := hs₁.exec
  have hexec₂ := hs₂.exec
  rcases h with hquiet | halone
  · -- every woken waiter only looks: any two orders agree
    have hlookers : ∀ t ∈ ts₁, m.WokenLooker t := fun t ht => by
      obtain ⟨r, timed, hpc⟩ := (hmem₁ t).mp ht
      exact ⟨r, timed, hpc, hquiet t r timed true hpc⟩
    rw [exec_wakeRun_perm hperm m hnodup₁ hlookers, hexec₁, Option.some.injEq] at hexec₂
    exact hexec₂
  · -- at most one thread is inside a wait, so the two runs are the same run
    have hsame : ts₁ = ts₂ := by
      cases ts₁ with
      | nil => exact (List.nil_perm.mp hperm).symm
      | cons t rest =>
        have hrest : rest = [] := by
          cases rest with
          | nil => rfl
          | cons u rest' =>
            obtain ⟨r, timed, hpc⟩ := (hmem₁ t).mp List.mem_cons_self
            obtain ⟨r', timed', hpc'⟩ :=
              (hmem₁ u).mp (List.mem_cons_of_mem _ List.mem_cons_self)
            have htu := halone t u _ _ _ _ _ _ hpc hpc'
            exact absurd (htu ▸ List.mem_cons_self) (List.nodup_cons.mp hnodup₁).1
        subst hrest
        exact (List.perm_singleton.mp hperm.symm).symm
    subst hsame
    rw [hexec₁, Option.some.injEq] at hexec₂
    exact hexec₂

/-! ## The order of a wake-up does not matter -/

/-- The order of a wake-up does not matter. For any distinct threads woken inside waits that only
look, taking the lock in turn, each once, goes through, and every order in which they do so
reaches the same machine: each of them ends with the same outcome or asleep again, and the value,
the flag, the count of waiters and the wake-up of a draining thread are the same. Hence, when every
wait only looks or at most one thread is inside a wait, every run that settles the machine, the
woken waiters looking in whatever order until none is left woken, ends in the same machine. -/
theorem wake_order_irrelevant (m : Machine α) :
    (∀ ts : List Nat, ts.Nodup → (∀ t ∈ ts, m.WokenLooker t) →
      (∃ m', m.exec (wakeRun ts) = some m') ∧
      ∀ ts', ts.Perm ts' → m.exec (wakeRun ts') = m.exec (wakeRun ts)) ∧
    (m.ModifierAlone → ∀ ts₁ ts₂ m₁ m₂, Settles m ts₁ m₁ → Settles m ts₂ m₂ → m₁ = m₂) :=
  ⟨fun _ hnodup hw => ⟨exec_wakeRun_some hnodup hw,
      fun _ hperm => exec_wakeRun_perm hperm m hnodup hw⟩,
    fun h _ _ _ _ hs₁ hs₂ => settle_unique h hs₁ hs₂⟩

/-- A request that only waits for the gate to be disabled. -/
def untilDisabled : Request Count := { check := fun _ => .fails }

/-- Two waiters woken on a disabled counter by a draining disable asleep on `drained`. -/
def twoWoken : Machine Count :=
  { gate := ⟨Count.zero, false, 2⟩,
    threads := [.parked untilDisabled false true, .parked untilDisabled false true,
      .draining false] }

example : (twoWoken.exec (wakeRun [0, 1])).map (fun m => (m.gate.waiting, m.threads[2]?)) =
    some (0, some (.draining true)) := rfl

/-- The two waiters leave the disabled counter in either order with the same result, and settling
ends in one machine whatever the order. -/
theorem two_waiters_leave_in_either_order :
    twoWoken.exec (wakeRun [1, 0]) = twoWoken.exec (wakeRun [0, 1]) ∧
      ∃ m', Settles twoWoken [0, 1] m' ∧ ∀ ts m'', Settles twoWoken ts m'' → m'' = m' := by
  have hlookers : ∀ t ∈ [0, 1], twoWoken.WokenLooker t := by
    intro t ht
    simp only [List.mem_cons, List.not_mem_nil, or_false] at ht
    rcases ht with rfl | rfl <;> exact ⟨_, _, rfl, rfl⟩
  have hquiet : twoWoken.ModifierAlone := by
    refine .inl fun t r timed w h => ?_
    rcases t with _ | _ | _ | t <;> simp [twoWoken] at h
    · rw [← h.1]; rfl
    · rw [← h.1]; rfl
  -- the settling run in which the first waiter looks first
  have hstep₀ : twoWoken.step 0 .run = some _ := rfl
  have hstep₁ : (twoWoken.apply 0 (Turn.look twoWoken.gate untilDisabled false false)).step 1 .run
      = some _ := rfl
  obtain ⟨m', hsettles⟩ : ∃ m', Settles twoWoken [0, 1] m' := by
    refine ⟨_, .look ⟨_, _, rfl⟩ hstep₀ (.look ⟨_, _, rfl⟩ hstep₁ (.done ?_))⟩
    rintro t ⟨r, timed, h⟩
    rcases t with _ | _ | _ | t <;> simp [twoWoken, apply, Turn.look, Gate.look, Gate.leave,
      Pc.ofLook, Pc.wake] at h
  obtain ⟨hsome, hsettle⟩ := wake_order_irrelevant twoWoken
  refine ⟨(hsome [0, 1] (by decide) hlookers).2 [1, 0] (List.Perm.swap 1 0 []), m', hsettles,
    fun ts m'' hs => hsettle hquiet ts [0, 1] m'' m' hs hsettles⟩

end Machine

end WaitGate
