import WaitGate.Proofs.Machine.Disabled
/-!
# The lines of a draining disable

A draining disable clears the flag and wakes every waiter in its first critical section, where it
finds `n` threads inside a wait. With `n = 0` it returns at once and says nothing. Otherwise it
announces the drain of `n` waiters, then checks, each time in a critical section of its own and
asleep on `drained` in between, until nobody is left (`drained`) or the gate is enabled again
(`abandoned m`, with `m > 0` waiters left). A check interval that passes while waiters are still
inside a disabled gate wakes them again and adds a warning (`stillPending k`, `k > 0`). It
returns right after its last line.

`Pc.DrainStage` says where a drain stands and which lines it has handed to the sink so far; each
step of the draining thread moves it from one stage to the next (`DrainStage.move`), and the steps
of other threads only wake it (`DrainStage.wake`), so a whole run keeps it (`exec_drainStage`).
The flag `reenabled` of a stage says whether the last line may be a surrender: when no enabling
takes effect during the call, the gate stays disabled from the drain's first critical section on,
no check finds it enabled, and the last line is always `drained`.
-/

namespace WaitGate

variable {α : Type}

namespace Notice

/-- The lines of a drain under way: the announcement of the drain of `n > 0` waiters, then any
number of warnings that it is still pending, each with a positive count of waiters. -/
def DrainUnderWay (ls : List Notice) : Prop :=
  ∃ (n : Nat) (ks : List Nat), 0 < n ∧ (∀ k ∈ ks, 0 < k) ∧
    ls = .draining n :: ks.map .stillPending

/-- The last line of a drain: the drain is over, or, when the gate may have been enabled again
meanwhile (`reenabled`), it was given up with waiters left. -/
def EndsDrain (reenabled : Bool) (f : Notice) : Prop :=
  f = .drained ∨ reenabled = true ∧ ∃ n, 0 < n ∧ f = .abandoned n

theorem drainUnderWay_announce {n : Nat} (hn : 0 < n) : DrainUnderWay [.draining n] :=
  ⟨n, [], hn, by simp, rfl⟩

theorem DrainUnderWay.warn {ls : List Notice} {k : Nat} (h : DrainUnderWay ls) (hk : 0 < k) :
    DrainUnderWay (ls ++ [.stillPending k]) := by
  obtain ⟨n, ks, hn, hks, rfl⟩ := h
  refine ⟨n, ks ++ [k], hn, ?_, by simp⟩
  intro k' hk'
  rcases List.mem_append.mp hk' with hmem | hmem
  · exact hks k' hmem
  · rw [List.mem_singleton.mp hmem]
    exact hk

end Notice

namespace Pc

/-- Where a draining disable stands in its call, and the lines it has handed to the sink in it so
far; `Notice.EndsDrain reenabled` says which last lines may close it. -/
inductive DrainStage (reenabled : Bool) : Pc α → List Notice → Prop
  /-- Called, its first critical section still to come. -/
  | called : DrainStage reenabled (.call .drain) []
  /-- It found nobody inside a wait and returned at once, without a line. -/
  | nobody : DrainStage reenabled (.returned .none) []
  /-- It found `n` waiters and is about to announce the drain. -/
  | announcing {n : Nat} (hn : 0 < n) : DrainStage reenabled (.emit (.draining n) true) []
  /-- It is about to check whether the drain is over. -/
  | checking {ls : List Notice} (h : Notice.DrainUnderWay ls) : DrainStage reenabled .recheck ls
  /-- It is asleep on `drained`. -/
  | asleep {ls : List Notice} (woken : Bool) (h : Notice.DrainUnderWay ls) :
      DrainStage reenabled (.draining woken) ls
  /-- A check interval passed with `k` waiters left, and it is about to warn. -/
  | warning {ls : List Notice} {k : Nat} (hk : 0 < k) (h : Notice.DrainUnderWay ls) :
      DrainStage reenabled (.emit (.stillPending k) true) ls
  /-- It found the drain over, or given up, and is about to say so. -/
  | ending {ls : List Notice} {f : Notice} (hf : f.EndsDrain reenabled)
      (h : Notice.DrainUnderWay ls) : DrainStage reenabled (.emit f false) ls
  /-- It said so, and returned. -/
  | done {ls : List Notice} {f : Notice} (hf : f.EndsDrain reenabled)
      (h : Notice.DrainUnderWay ls) : DrainStage reenabled (.returned .none) (ls ++ [f])

namespace DrainStage

variable {reenabled : Bool} {pc : Pc α} {ls : List Notice}

theorem ne_call_enable (h : DrainStage reenabled pc ls) : pc ≠ .call .enable := by
  cases h <;> simp

/-- Once it has returned, a drain has said nothing, or it has announced the drain of `n > 0`
waiters, warned any number of times that it was still pending, and closed with one last line. -/
theorem returned {r : Reply α} (h : DrainStage reenabled (.returned r) ls) :
    ls = [] ∨ ∃ (n : Nat) (ks : List Nat) (f : Notice), 0 < n ∧ (∀ k ∈ ks, 0 < k) ∧
      f.EndsDrain reenabled ∧
      ls = .draining n :: ks.map .stillPending ++ [f] := by
  cases h with
  | nobody => exact .inl rfl
  | done hf hway =>
    obtain ⟨n, ks, hn, hks, rfl⟩ := hway
    exact .inr ⟨n, ks, _, hn, hks, hf, rfl⟩

/-- A drain that cannot see a re-enabled gate closes, once returned, on the line that it is over. -/
theorem returned_drained {r : Reply α} (h : DrainStage false (.returned r) ls) :
    ls = [] ∨ ∃ (n : Nat) (ks : List Nat), 0 < n ∧ (∀ k ∈ ks, 0 < k) ∧
      ls = .draining n :: ks.map .stillPending ++ [.drained] := by
  rcases h.returned with hnil | ⟨n, ks, f, hn, hks, hf, hls⟩
  · exact .inl hnil
  · rcases hf with rfl | ⟨hfalse, -⟩
    · exact .inr ⟨n, ks, hn, hks, hls⟩
    · cases hfalse

/-- A wake-up leaves a drain where it stands, woken if it was asleep. -/
theorem wake (w : Wakes) (h : DrainStage reenabled pc ls) :
    DrainStage reenabled (pc.wake w) ls := by
  cases h with
  | asleep woken hway => exact .asleep _ hway
  | called => exact .called
  | nobody => exact .nobody
  | announcing hn => exact .announcing hn
  | checking hway => exact .checking hway
  | warning hk hway => exact .warning hk hway
  | ending hf hway => exact .ending hf hway
  | done hf hway => exact .done hf hway

end DrainStage

/-- A check of a drain under way: over when nobody is left, given up when the gate was enabled
again (which only a drain that may see a re-enabled gate allows), and otherwise asleep. -/
theorem drainCheck_stage {reenabled : Bool} {g : Gate α} {ls : List Notice}
    (h : Notice.DrainUnderWay ls) (hgate : reenabled = false → g.enabled = false) :
    DrainStage reenabled (drainCheck g) ls := by
  unfold drainCheck
  split
  · exact .ending (.inl rfl) h
  · rename_i hwaiting
    split
    · rename_i henabled
      -- the gate was enabled again, so the drain may not be one that kept it disabled
      have hre : reenabled = true := by
        cases hr : reenabled
        · have := hgate hr
          rw [henabled] at this
          cases this
        · rfl
      exact .ending (.inr ⟨hre, g.waiting, by omega, rfl⟩) h
    · exact .asleep false h

/-- What a check of a drain can say: that it is over, with nobody left inside a wait, or that it is
given up, on an enabled gate with waiters left; never anything that asks for more. -/
theorem drainCheck_eq_emit {g : Gate α} {f : Notice} {more : Bool}
    (h : drainCheck g = emit f more) :
    more = false ∧ (f = .drained ∧ g.waiting = 0 ∨
      f = .abandoned g.waiting ∧ 0 < g.waiting ∧ g.enabled = true) := by
  unfold drainCheck at h
  split at h
  · cases h
    exact ⟨rfl, .inl ⟨rfl, ‹_›⟩⟩
  · split at h
    · cases h
      exact ⟨rfl, .inr ⟨rfl, by omega, ‹_›⟩⟩
    · cases h

end Pc

/-- The first critical section of a draining disable: the gate disabled, every waiter woken, and
the drain announced when it found waiters. -/
theorem Op.start_drain (g : Gate α) :
    Op.drain.start g =
      { gate := { g with enabled := false }, wakes := { waiters := true },
        pc := if g.waiting = 0 then .returned .none else .emit (.draining g.waiting) true } :=
  rfl

namespace Pc.DrainStage

variable {reenabled : Bool} {pc : Pc α} {ls : List Notice} {g : Gate α} {a : Act α}
  {turn : Turn α}

/-- The draining thread's own step, if it calls nothing new, takes it to its next stage with the
line it hands over, if any. When the drain may not see a re-enabled gate, the gate is disabled
after the step, provided it was from the drain's first critical section on. -/
theorem move (h : DrainStage reenabled pc ls) (hmove : Moves g pc a turn)
    (hcall : ∀ op, a ≠ .invoke op)
    (hgate : reenabled = false → pc ≠ .call .drain → g.enabled = false) :
    DrainStage reenabled turn.pc (ls ++ turn.notice.toList) ∧
      (reenabled = false → turn.gate.enabled = false) := by
  have hafter : reenabled = false → turn.gate.enabled = false := by
    intro hr
    by_cases hpc : pc = .call .drain
    · -- the drain's first critical section clears the flag
      subst hpc
      obtain ⟨-, rfl⟩ := hmove.call_inv hcall
      rw [Op.start_drain]
    · exact hmove.enabled_of_disabled (hgate hr hpc) h.ne_call_enable
  refine ⟨?_, hafter⟩
  -- a stage at a return can only call again; every other stage has one way on
  cases h with
  | called =>
    obtain ⟨-, rfl⟩ := hmove.call_inv hcall
    rw [Op.start_drain]
    dsimp only
    split
    · exact .nobody
    · exact .announcing (by omega)
  | nobody | done _ _ =>
    obtain ⟨op, rfl⟩ := hmove.returned_inv
    exact absurd rfl (hcall op)
  | announcing hn =>
    rw [hmove.emit_inv hcall]
    exact .checking (Notice.drainUnderWay_announce hn)
  | checking hway =>
    cases hmove with
    | check _ => simpa using drainCheck_stage hway (fun hr => hgate hr (by simp))
    | invoke op _ => exact absurd rfl (hcall op)
  | asleep woken hway =>
    cases hmove with
    | check _ | interval _ => simpa using drainCheck_stage hway (fun hr => hgate hr (by simp))
    | rebroadcast hw => simpa using warning hw.1 hway
    | invoke op _ => exact absurd rfl (hcall op)
  | warning hk hway =>
    rw [hmove.emit_inv hcall]
    exact .checking (hway.warn hk)
  | ending hf hway =>
    rw [hmove.emit_inv hcall]
    exact .done hf hway

end Pc.DrainStage

namespace Machine

/-- The lines thread `t` handed to the sink, in order, out of lines each with the thread that
handed it. -/
def linesOf (t : Nat) (offered : List (Nat × Notice)) : List Notice :=
  offered.filterMap fun p => if p.1 = t then some p.2 else none

@[simp] theorem linesOf_nil (t : Nat) : linesOf t [] = [] := rfl

theorem linesOf_append (t : Nat) (xs ys : List (Nat × Notice)) :
    linesOf t (xs ++ ys) = linesOf t xs ++ linesOf t ys :=
  List.filterMap_append

theorem linesOf_notice (t u : Nat) (n : Option Notice) :
    linesOf t (n.map (u, ·)).toList = if u = t then n.toList else [] := by
  cases n <;> by_cases h : u = t <;> simp [linesOf, h]

variable {m m' : Machine α} {t : Nat}

/-- Over a run in which the draining thread calls nothing new, it goes from stage to stage, and the
lines it hands to the sink are the ones its stages say. If the drain may not see a re-enabled gate,
no enabling may take effect in the run; then the gate stays disabled from the drain's first
critical section on. -/
theorem exec_drainStage {reenabled : Bool} {pc : Pc α} {ls : List Notice}
    {steps : List (Nat × Act α)} (h : m.exec steps = some m')
    (hidle : ∀ op, (t, .invoke op) ∉ steps)
    (hquiet : reenabled = false → ∀ e ∈ m.history steps, e.op ≠ .enable)
    (hpc : m.threads[t]? = some pc) (hstage : pc.DrainStage reenabled ls)
    (hgate : reenabled = false → pc ≠ .call .drain → m.gate.enabled = false) :
    ∃ pc' new, m'.threads[t]? = some pc' ∧ m'.offered = m.offered ++ new ∧
      pc'.DrainStage reenabled (ls ++ linesOf t new) ∧
      (reenabled = false → pc' ≠ .call .drain → m'.gate.enabled = false) := by
  induction steps generalizing m pc ls with
  | nil =>
    cases h
    exact ⟨pc, [], hpc, by simp, by simpa using hstage, hgate⟩
  | cons s rest ih =>
    obtain ⟨u, a⟩ := s
    obtain ⟨m₁, hstep, hrest⟩ := exec_cons_eq_some.mp h
    have hidle' : ∀ op, (t, .invoke op) ∉ rest := fun op hmem =>
      hidle op (List.mem_cons_of_mem _ hmem)
    have hquiet' : reenabled = false → ∀ e ∈ m₁.history rest, e.op ≠ .enable := fun hr e he =>
      hquiet hr e (by rw [history_cons_of_step hstep]; exact List.mem_append_right _ he)
    obtain ⟨pcu, turn, hpcu, hmove, rfl⟩ := step_moves hstep
    by_cases hu : u = t
    · -- the draining thread moves on to its next stage
      subst hu
      rw [hpc, Option.some.injEq] at hpcu
      subst hpcu
      have hcall : ∀ op, a ≠ .invoke op := fun op ha =>
        hidle op (by rw [ha]; exact List.mem_cons_self)
      obtain ⟨hstage₁, hgate₁⟩ := hstage.move hmove hcall hgate
      obtain ⟨pc', new, hpc', hoffered, hstage', hgate'⟩ :=
        ih hrest hidle' hquiet' (getElem?_apply_self hpc turn) hstage₁
          (fun hr _ => hgate₁ hr)
      refine ⟨pc', (turn.notice.map (u, ·)).toList ++ new, hpc', ?_, ?_, hgate'⟩
      · rw [hoffered]
        simp [apply]
      · rw [linesOf_append, linesOf_notice, if_pos rfl, ← List.append_assoc]
        exact hstage'
    · -- another thread's step only wakes it, and keeps a disabled gate disabled
      have hpc₁ : (m.apply u turn).threads[t]? = some (pc.wake turn.wakes) := by
        rw [apply_other m (Ne.symm hu), hpc]
        rfl
      have hgate₁ : reenabled = false → pc.wake turn.wakes ≠ .call .drain →
          (m.apply u turn).gate.enabled = false := by
        intro hr hne
        have hne' : pc ≠ .call .drain := fun hcall => hne (by rw [hcall]; rfl)
        exact hmove.enabled_of_disabled (hgate hr hne')
          (fun hcall => not_call_enable_of_history hstep (hquiet hr) (hcall ▸ hpcu))
      obtain ⟨pc', new, hpc', hoffered, hstage', hgate'⟩ :=
        ih hrest hidle' hquiet' hpc₁ (hstage.wake turn.wakes) hgate₁
      refine ⟨pc', (turn.notice.map (u, ·)).toList ++ new, hpc', ?_, ?_, hgate'⟩
      · rw [hoffered]
        simp [apply]
      · rw [linesOf_append, linesOf_notice, if_neg hu, List.nil_append]
        exact hstage'

/-! ## The critical sections behind each line -/

/-- The first critical section of a draining disable, on any machine: it disables the gate and
wakes every other thread, and it either returns at once, having found nobody inside a wait, or is
about to announce the drain of the waiters it found. -/
theorem step_drain_start {u : Nat} (hpc : m.threads[u]? = some (.call .drain))
    (h : m.step u .run = some m') :
    m'.gate = { m.gate with enabled := false } ∧
      (∀ v, v ≠ u → m'.threads[v]? = m.threads[v]?.map (Pc.wake { waiters := true })) ∧
      m'.offered = m.offered ∧
      (m.gate.waiting = 0 → m'.threads[u]? = some (.returned .none)) ∧
      (0 < m.gate.waiting → m'.threads[u]? = some (.emit (.draining m.gate.waiting) true)) := by
  rw [step_call hpc, Option.some.injEq] at h
  subst h
  have hself := getElem?_apply_self hpc (Op.drain.start m.gate)
  rw [Op.start_drain] at hself ⊢
  refine ⟨rfl, fun v hv => apply_other m hv _, by simp [apply], fun hzero => ?_, fun hpos => ?_⟩
  · rw [hself, if_pos hzero]
  · rw [hself, if_neg (by omega)]

/-- Each later line of a drain follows a critical section of the draining thread that decides it:
a warning that the drain is still pending with `k` waiters follows a sleep on `drained` that timed
out into a critical section with `k > 0` waiters on a disabled gate, which wakes every other thread
again; the line that the drain is over follows one with nobody inside a wait; and the line that it
was given up with `k` waiters left follows one on an enabled gate with `k > 0` waiters. -/
theorem step_drain_line {reenabled : Bool} {ls : List Notice} {u : Nat} {a : Act α}
    {pc pc' : Pc α} (hstage : pc.DrainStage reenabled ls) (hpc : m.threads[u]? = some pc)
    (h : m.step u a = some m') (hpc' : m'.threads[u]? = some pc') :
    (∀ k, pc' = .emit (.stillPending k) true →
      pc = .draining false ∧ a = .expire ∧ k = m.gate.waiting ∧ 0 < k ∧
      m.gate.enabled = false ∧ m'.gate = m.gate ∧
      ∀ v, v ≠ u → m'.threads[v]? = m.threads[v]?.map (Pc.wake { waiters := true })) ∧
    (pc' = .emit .drained false → m.gate.waiting = 0 ∧ m'.gate = m.gate) ∧
    (∀ k, pc' = .emit (.abandoned k) false →
      m.gate.enabled = true ∧ k = m.gate.waiting ∧ 0 < k ∧ m'.gate = m.gate) := by
  obtain ⟨turn, hmove, rfl, rfl⟩ := step_moves_to h hpc hpc'
  -- only a drain check says the drain is over or given up, and only a passed interval warns
  have hcheck : (∀ k, Pc.drainCheck m.gate ≠ .emit (.stillPending k) true) ∧
      (Pc.drainCheck m.gate = .emit .drained false → m.gate.waiting = 0) ∧
      (∀ k, Pc.drainCheck m.gate = .emit (.abandoned k) false →
        m.gate.enabled = true ∧ k = m.gate.waiting ∧ 0 < k) := by
    refine ⟨fun k hk => ?_, fun hd => ?_, fun k hk => ?_⟩
    · obtain ⟨hmore, -⟩ := Pc.drainCheck_eq_emit hk
      cases hmore
    · obtain ⟨-, ⟨-, hzero⟩ | ⟨hf, -⟩⟩ := Pc.drainCheck_eq_emit hd
      · exact hzero
      · cases hf
    · obtain ⟨-, ⟨hf, -⟩ | ⟨hf, hpos, henabled⟩⟩ := Pc.drainCheck_eq_emit hk
      · cases hf
      · cases hf
        exact ⟨henabled, rfl, hpos⟩
  cases hmove with
  | check _ | interval _ =>
    obtain ⟨hsp, hd, hab⟩ := hcheck
    exact ⟨fun k hk => (hsp k hk).elim, fun hdrained => ⟨hd hdrained, rfl⟩,
      fun k hk => ⟨(hab k hk).1, (hab k hk).2.1, (hab k hk).2.2, rfl⟩⟩
  | rebroadcast hw =>
    refine ⟨fun k hk => ?_, fun hd => (by cases hd), fun k hk => (by cases hk)⟩
    cases hk
    exact ⟨rfl, rfl, rfl, hw.1, hw.2, rfl, fun v hv => apply_other m hv _⟩
  | start op =>
    -- a drain's first critical section returns or announces; no other call is a drain stage
    cases hstage
    rw [Op.start_drain]
    dsimp only
    split <;>
      exact ⟨fun k hk => (by cases hk), fun hd => (by cases hd), fun k hk => (by cases hk)⟩
  | emit n more =>
    cases more <;>
      exact ⟨fun k hk => (by cases hk), fun hd => (by cases hd), fun k hk => (by cases hk)⟩
  | invoke op _ =>
    exact ⟨fun k hk => (by cases hk), fun hd => (by cases hd), fun k hk => (by cases hk)⟩
  | wake r timed | expire r => cases hstage

/-! ## What a draining disable says -/

/-- What a draining disable says, and when. It says that it drains `n` waiting threads and that it
is drained (debug), or that it is still pending with `n` threads waiting and that it was given up
with `n` threads left waiting (warn), each line after the gate's label. Its first critical
section, on any machine, disables the gate and wakes every other thread; if it found nobody
inside a wait the call returns at once without a line, and otherwise it is about to announce the
drain of the waiters it found. Each later line follows the critical section of the drain that
decides it: a warning that the drain is still pending with `k` waiters follows a sleep on
`drained` that timed out into one with `k > 0` waiters on a disabled gate, which wakes every other
thread again; the line that the drain is over follows one with nobody inside a wait; the line that
it was given up with `k` waiters left follows one on an enabled gate with `k > 0` waiters. Over
every run from a call in which the thread calls nothing new, the lines it has handed over are the
ones its stage allows (`Pc.DrainStage`): nothing, or the announcement, any number of those
warnings, and at most one last line, right after which it has returned. Once it has returned it
has said nothing, or all of these with exactly one last line; and if no enabling takes effect
during the run, that last line can only be that the drain is over. -/
theorem drain_lines {t : Nat} (hcall : m.threads[t]? = some (.call .drain)) :
    (∀ (label : String) (n : Nat),
      (Notice.draining n).level = .debug ∧ (Notice.draining n).message label =
        "[" ++ label ++ "] draining " ++ toString n ++ " waiting threads" ∧
      (Notice.stillPending n).level = .warn ∧ (Notice.stillPending n).message label =
        "[" ++ label ++ "] drain still pending after <elapsed>: " ++ toString n ++
          " threads waiting" ∧
      Notice.drained.level = .debug ∧
      Notice.drained.message label = "[" ++ label ++ "] drained in <elapsed>" ∧
      (Notice.abandoned n).level = .warn ∧ (Notice.abandoned n).message label =
        "[" ++ label ++ "] re-enabled during drain, " ++ toString n ++ " threads left waiting") ∧
    (∀ (m₁ m₂ : Machine α) u, m₁.threads[u]? = some (.call .drain) → m₁.step u .run = some m₂ →
      m₂.gate = { m₁.gate with enabled := false } ∧
      (∀ v, v ≠ u → m₂.threads[v]? = m₁.threads[v]?.map (Pc.wake { waiters := true })) ∧
      m₂.offered = m₁.offered ∧
      (m₁.gate.waiting = 0 → m₂.threads[u]? = some (.returned .none)) ∧
      (0 < m₁.gate.waiting → m₂.threads[u]? = some (.emit (.draining m₁.gate.waiting) true))) ∧
    (∀ (m₁ m₂ : Machine α) (reenabled : Bool) (ls : List Notice) (u : Nat) (a : Act α)
      (pc pc' : Pc α), pc.DrainStage reenabled ls → m₁.threads[u]? = some pc →
      m₁.step u a = some m₂ → m₂.threads[u]? = some pc' →
      (∀ k, pc' = .emit (.stillPending k) true →
        pc = .draining false ∧ a = .expire ∧ k = m₁.gate.waiting ∧ 0 < k ∧
        m₁.gate.enabled = false ∧ m₂.gate = m₁.gate ∧
        ∀ v, v ≠ u → m₂.threads[v]? = m₁.threads[v]?.map (Pc.wake { waiters := true })) ∧
      (pc' = .emit .drained false → m₁.gate.waiting = 0 ∧ m₂.gate = m₁.gate) ∧
      (∀ k, pc' = .emit (.abandoned k) false →
        m₁.gate.enabled = true ∧ k = m₁.gate.waiting ∧ 0 < k ∧ m₂.gate = m₁.gate)) ∧
    (∀ steps m', m.exec steps = some m' → (∀ op, (t, .invoke op) ∉ steps) →
      ∃ pc' new, m'.threads[t]? = some pc' ∧ m'.offered = m.offered ++ new ∧
        pc'.DrainStage true (linesOf t new) ∧
        (pc' = .returned .none → linesOf t new = [] ∨
          ∃ (n : Nat) (ks : List Nat) (f : Notice), 0 < n ∧ (∀ k ∈ ks, 0 < k) ∧
            f.EndsDrain true ∧ linesOf t new = .draining n :: ks.map .stillPending ++ [f]) ∧
        ((∀ e ∈ m.history steps, e.op ≠ .enable) → pc'.DrainStage false (linesOf t new) ∧
          (pc' = .returned .none → linesOf t new = [] ∨
            ∃ (n : Nat) (ks : List Nat), 0 < n ∧ (∀ k ∈ ks, 0 < k) ∧
              linesOf t new = .draining n :: ks.map .stillPending ++ [.drained]))) := by
  refine ⟨fun _ _ => ⟨rfl, rfl, rfl, rfl, rfl, rfl, rfl, rfl⟩,
    fun _ _ _ hpc h => step_drain_start hpc h,
    fun _ _ _ _ _ _ _ _ hstage hpc h hpc' => step_drain_line hstage hpc h hpc', ?_⟩
  intro steps m' h hidle
  -- a drain that may see a re-enabled gate needs no hypothesis on the run
  obtain ⟨pc', new, hpc', hoffered, hstage, -⟩ :=
    exec_drainStage h hidle (fun hr => by cases hr) hcall
      (.called : (Pc.call .drain : Pc α).DrainStage true []) (fun hr => by cases hr)
  replace hstage : pc'.DrainStage true (linesOf t new) := by simpa using hstage
  refine ⟨pc', new, hpc', hoffered, hstage, fun hret => ?_, fun hquiet => ?_⟩
  · subst hret
    exact hstage.returned
  -- with no enabling, the same run also keeps the stage of a drain that sees the gate disabled
  obtain ⟨pc'', new', hpc'', hoffered', hstage', -⟩ :=
    exec_drainStage h hidle (fun _ => hquiet) hcall
      (.called : (Pc.call .drain : Pc α).DrainStage false []) (fun _ hne => absurd rfl hne)
  rw [hpc', Option.some.injEq] at hpc''
  subst hpc''
  rw [hoffered, List.append_cancel_left_eq] at hoffered'
  subst hoffered'
  replace hstage' : pc'.DrainStage false (linesOf t new) := by simpa using hstage'
  refine ⟨hstage', fun hret => ?_⟩
  subst hret
  exact hstage'.returned_drained

/-- A taker asleep on a counter at zero, and a thread that has called a draining disable. -/
def drainingTaker : Machine Count :=
  { gate := ⟨Count.zero, true, 1⟩,
    threads := [.parked CounterCommand.takeOne false false, .call .drain] }

/-- The drain of the taker: the drain disables the gate and announces itself, checks and falls
asleep; the woken taker leaves and wakes the drain, which finds nobody left and says so. -/
def drainTakerRun : List (Nat × Act Count) :=
  [(1, .run), (1, .run), (1, .run), (0, .run), (1, .run), (1, .run)]

example : (drainingTaker.exec drainTakerRun).map (fun m => linesOf 1 m.offered) =
    some [.draining 1, .drained] := rfl

/-- The drain of the taker, with no enabling on the way, has only the lines a drain that kept the
gate disabled may say. -/
theorem drain_taker_stays_drained :
    ∃ m' pc' new, drainingTaker.exec drainTakerRun = some m' ∧ m'.threads[1]? = some pc' ∧
      m'.offered = drainingTaker.offered ++ new ∧ pc'.DrainStage false (linesOf 1 new) := by
  have hrun : drainingTaker.exec drainTakerRun = some _ := rfl
  have hidle : ∀ op, ((1 : Nat), (.invoke op : Act Count)) ∉ drainTakerRun := by
    simp [drainTakerRun]
  -- the drain and the taker's wait take effect, and nothing else
  have hhistory : drainingTaker.history drainTakerRun =
      [⟨1, .drain, ⟨Count.zero, true, 1⟩, false, Count.zero, false, .none⟩,
        ⟨0, Op.takeOne false, ⟨Count.zero, false, 1⟩, false, Count.zero, false,
          .outcome .disabled⟩] := rfl
  have hquiet : ∀ e ∈ drainingTaker.history drainTakerRun, e.op ≠ .enable := by
    rw [hhistory]
    simp [Op.takeOne]
  obtain ⟨-, -, -, hlines⟩ :=
    drain_lines (show drainingTaker.threads[1]? = some (.call .drain) from rfl)
  obtain ⟨pc', new, hpc', hoffered, -, -, hstage⟩ := hlines _ _ hrun hidle
  exact ⟨_, pc', new, hrun, hpc', hoffered, (hstage hquiet).1⟩

end Machine

end WaitGate
