import WaitGate.Session.Command
import WaitGate.Proofs.Machine.Steps
/-!
# Diagnostics leave the lock alone

A gate decides its diagnostic lines in critical sections, and hands them to its sink afterwards,
with the lock released. Both halves are stated here.

* On the machine, a line reaches the sink only by the step of a thread standing at an emit point
  (`Pc.step_notice`, `Machine.step_offers`). That step is outside the lock: it does the same
  whatever the gate holds, so it reads nothing the lock guards, and it changes nothing there,
  neither the gate nor any other thread. The critical sections that decide the lines of a
  disable, of each stage of a draining disable and of a counter that saturates hand nothing over
  themselves; they leave their thread at the emit point. A sink that reads or changes the gate
  from inside can therefore always take the lock.
* Handing a line to the sink is one emit (`Sink.emit`): the sink is asked whether it wants the
  line's level first, and the line is formatted and logged only then. On the machine a step adds
  to what a sink logs only as an emit step of a wanted notice (`Machine.step_logged`), whichever
  of the gate's lines it is. On a session, offering a line is the same emit
  (`Session.wantedLines_offer`). Every command keeps the
  sink and the label, and adds to the sink's lines, kept or written to the console, only lines of
  notices whose level the sink wants (`Session.wantedLines_exec`). So a sink that does not want a
  level never receives a line of it.
-/

namespace WaitGate

variable {α : Type}

/-! ## Handing a line to the sink -/

/-- No operation's first critical section hands a line to the sink. -/
@[simp] theorem Op.start_notice (g : Gate α) (op : Op α) : (op.start g).notice = none := by
  cases op <;> rfl

/-- Only a thread at an emit point hands a line to the sink, and that step is outside the lock:
on any gate it does the same, it leaves the gate as it was, and it wakes nobody. -/
theorem Pc.step_notice {g : Gate α} {pc : Pc α} {a : Act α} {turn : Turn α} {n : Notice}
    (h : pc.step g a = some turn) (hn : turn.notice = some n) :
    (∃ more, pc = .emit n more) ∧ a = .run ∧ turn.gate = g ∧ turn.wakes = {} ∧
      ∀ g' : Gate α, pc.step g' a = some { turn with gate := g' } := by
  cases moves_of_step h with
  | emit n' more =>
    cases hn
    exact ⟨⟨more, rfl⟩, rfl, rfl, rfl, fun _ => rfl⟩
  -- every critical section hands nothing over
  | start op => simp at hn
  | wake r timed | expire r => cases hn
  | invoke _ _ | check _ | rebroadcast _ | interval _ => cases hn

/-- An emit logs a line only when the sink wants the notice's level, and then the notice's line at
that level. -/
theorem Sink.mem_emit {s : Sink} {label : String} {n : Notice} {l : Level × String} :
    l ∈ s.emit label n ↔ s.accepts n.level = true ∧ l = (n.level, n.message label) := by
  unfold Sink.emit
  split <;> simp [*]

namespace Machine

variable {m m' : Machine α} {t : Nat} {a : Act α}

/-- A step that hands a line to the sink is taken by a thread at an emit point, outside the lock:
it adds that one line, leaves the gate and every other thread as they were, and does the same on
a machine holding any other gate. -/
theorem step_offers (h : m.step t a = some m') (hoffered : m'.offered ≠ m.offered) :
    ∃ n more, m.threads[t]? = some (.emit n more) ∧ a = .run ∧
      m'.offered = m.offered ++ [(t, n)] ∧ m'.gate = m.gate ∧
      (∀ u, u ≠ t → m'.threads[u]? = m.threads[u]?) ∧
      ∀ g : Gate α, { m with gate := g }.step t a = some { m' with gate := g } := by
  obtain ⟨pc, turn, hpc, hstep, rfl⟩ := step_eq_some.mp h
  cases hn : turn.notice with
  | none =>
    -- a step that hands nothing over leaves the sink's lines alone
    exact absurd (by simp [apply, hn]) hoffered
  | some n =>
    obtain ⟨⟨more, rfl⟩, rfl, hgate, hwakes, hsame⟩ := Pc.step_notice hstep hn
    refine ⟨n, more, hpc, rfl, by simp [apply, hn], hgate, fun u hu => ?_, fun g => ?_⟩
    · rw [apply_other m hu, hwakes]
      cases m.threads[u]? <;> simp
    · -- the step on another gate is the same turn, with that gate kept
      have hpc' : ({ m with gate := g } : Machine α).threads[t]? = some (.emit n more) := hpc
      simp only [step, hpc', hsame g, Option.map_some]
      rfl

/-- The lines a sink logs grow with the notices handed to it, by one emit each. -/
theorem logged_of_offered {xs : List (Nat × Notice)} (h : m'.offered = m.offered ++ xs)
    (s : Sink) (label : String) :
    m'.logged s label = m.logged s label ++ xs.flatMap fun p => (s.emit label p.2).map (p.1, ·) := by
  simp [logged, h]

/-- A step adds to a sink's log only as the emit step of a notice whose level the sink wants, and
then exactly the line of that notice, at its level, from the emitting thread. -/
theorem step_logged (h : m.step t a = some m') (s : Sink) (label : String) :
    m'.logged s label = m.logged s label ∨
      ∃ n more, m.threads[t]? = some (.emit n more) ∧ s.accepts n.level = true ∧
        m'.logged s label = m.logged s label ++ [(t, n.level, n.message label)] := by
  by_cases hoffered : m'.offered = m.offered
  · exact .inl (by simp [logged, hoffered])
  · obtain ⟨n, more, hpc, -, hnew, -⟩ := step_offers h hoffered
    rw [logged_of_offered hnew]
    -- the emit asks the sink for the level before it logs anything
    cases hwanted : s.accepts n.level
    · exact .inl (by simp [Sink.emit, hwanted])
    · exact .inr ⟨n, more, hpc, hwanted, by simp [Sink.emit, hwanted]⟩

end Machine

/-! ## The lines a sink receives -/

namespace Session

/-- Waking the waiters touches only the waiters. -/
theorem wakeIf_frame (s : Session α) (b : Bool) : ∃ ws, s.wakeIf b = { s with waiters := ws } := by
  unfold wakeIf
  split
  · exact ⟨_, rfl⟩
  · exact ⟨s.waiters, rfl⟩

/-- Putting a new gate in place, waking the waiters and settling them touches only the gate and
the waiters. -/
theorem changeGate_frame (s : Session α) (g : Gate α) (w : Wakes) :
    ∃ g' ws, s.changeGate g w = { s with gate := g', waiters := ws } := by
  obtain ⟨ws, hwake⟩ := ({ s with gate := g } : Session α).wakeIf_frame w.waiters
  exact ⟨_, _, by rw [changeGate, hwake]; rfl⟩

/-- The lines `s'` holds beyond those of `s`, kept for the command or written to the console, are
lines of notices whose level the sink of `s` wants, each at that level with its message under the
label of `s`; and the sink and the configuration are those of `s`. -/
def WantedLines (s s' : Session α) : Prop :=
  s'.sink = s.sink ∧ s'.config = s.config ∧
    ∃ kept console, s'.kept = s.kept ++ kept ∧ s'.console = s.console ++ console ∧
      ∀ l ∈ kept ++ console, ∃ n : Notice, s.sink.accepts n.level = true ∧
        l = (n.level, n.message s.config.label)

variable {s s' s₁ s₂ s₃ : Session α}

/-- A session with the same sink, configuration and lines holds no new line. -/
theorem wantedLines_of_eq (hsink : s'.sink = s.sink) (hconfig : s'.config = s.config)
    (hkept : s'.kept = s.kept) (hconsole : s'.console = s.console) : WantedLines s s' :=
  ⟨hsink, hconfig, [], [], by simp [hkept], by simp [hconsole], by simp⟩

theorem WantedLines.trans (h₁ : WantedLines s₁ s₂) (h₂ : WantedLines s₂ s₃) :
    WantedLines s₁ s₃ := by
  obtain ⟨hsink₁, hconfig₁, kept₁, console₁, hkept₁, hconsole₁, hwanted₁⟩ := h₁
  obtain ⟨hsink₂, hconfig₂, kept₂, console₂, hkept₂, hconsole₂, hwanted₂⟩ := h₂
  refine ⟨hsink₂.trans hsink₁, hconfig₂.trans hconfig₁, kept₁ ++ kept₂, console₁ ++ console₂,
    by simp [hkept₂, hkept₁], by simp [hconsole₂, hconsole₁], fun l hl => ?_⟩
  -- the second session's sink and label are the first one's
  simp only [List.mem_append] at hl
  rcases hl with (hl | hl) | hl | hl
  · exact hwanted₁ l (List.mem_append_left _ hl)
  · rw [← hsink₁, ← hconfig₁]
    exact hwanted₂ l (List.mem_append_left _ hl)
  · exact hwanted₁ l (List.mem_append_right _ hl)
  · rw [← hsink₁, ← hconfig₁]
    exact hwanted₂ l (List.mem_append_right _ hl)

theorem wantedLines_changeGate (s : Session α) (g : Gate α) (w : Wakes) :
    WantedLines s (s.changeGate g w) := by
  obtain ⟨g', ws, h⟩ := s.changeGate_frame g w
  rw [h]
  exact wantedLines_of_eq rfl rfl rfl rfl

/-- Offering a notice is one emit: the sink is asked for the notice's level first, and the line,
at that level and with the notice's message, is kept or written to the console only when the sink
wants it. -/
theorem wantedLines_offer (s : Session α) (n : Notice) : WantedLines s (s.offer n) := by
  have hemit : ∀ l ∈ s.sink.emit s.config.label n, ∃ n' : Notice,
      s.sink.accepts n'.level = true ∧ l = (n'.level, n'.message s.config.label) :=
    fun l hl => ⟨n, (Sink.mem_emit.mp hl).1, (Sink.mem_emit.mp hl).2⟩
  unfold offer
  -- the process-wide subscriber writes to the console, every other sink keeps the line
  split
  · exact ⟨rfl, rfl, [], _, by simp, rfl, by simpa using hemit⟩
  · exact ⟨rfl, rfl, _, [], rfl, by simp, by simpa using hemit⟩

theorem wantedLines_offerIf (h : WantedLines s s') (p : Prop) [Decidable p] (n : Notice) :
    WantedLines s (if p then s'.offer n else s') := by
  split
  · exact h.trans (wantedLines_offer s' n)
  · exact h

/-- Every command adds to the sink's lines only lines of notices the sink wants. -/
theorem wantedLines_exec (s : Session α) (c : Command α) : WantedLines s (s.exec c).2 := by
  cases c with
  | disable =>
    show WantedLines s (if s.disableAll.1 > 0 then s.disableAll.2.offer _ else s.disableAll.2)
    exact wantedLines_offerIf (wantedLines_changeGate _ _ _) _ _
  | drain =>
    simp only [exec]
    split
    · exact wantedLines_changeGate _ _ _
    · exact ((wantedLines_offer _ _).trans (wantedLines_changeGate _ _ _)).trans
        (wantedLines_offer _ _)
  | wait r mode =>
    cases mode with
    | inline =>
      -- every way out settles the gate after the controller's looks
      simp only [exec, waitInline]
      split <;> exact wantedLines_changeGate _ _ _
    | background =>
      simp only [exec, waitBackground]
      split
      · exact wantedLines_of_eq rfl rfl rfl rfl
      · exact (wantedLines_of_eq rfl rfl rfl rfl).trans (wantedLines_changeGate _ _ _)
      · exact (wantedLines_of_eq rfl rfl rfl rfl).trans (wantedLines_changeGate _ _ _)
  | adjust f =>
    simp only [exec]
    split
    · exact (wantedLines_changeGate _ _ _).trans (wantedLines_offer _ _)
    · exact wantedLines_changeGate _ _ _
  | join id =>
    -- joining only removes an ended waiter
    simp only [exec, join]
    split
    · exact wantedLines_of_eq rfl rfl rfl rfl
    · split
      · exact wantedLines_of_eq rfl rfl rfl rfl
      · split <;> exact wantedLines_of_eq rfl rfl rfl rfl
  | update f | set v => exact wantedLines_changeGate _ _ _
  | enable | isEnabled | read | waitingCount | describe _ | describeLocked _ | inspect _ =>
    exact wantedLines_of_eq rfl rfl rfl rfl

/-- The lines a command leaves with the sink, kept for the command or written to the console, are
lines of notices whose level the sink wants, each at that level with its message. -/
theorem step_lines_wanted (s : Session α) (c : Command α) :
    ∃ console, (s.step (.ok c)).after.console = s.console ++ console ∧
      ∀ l ∈ (s.step (.ok c)).lines ++ console, ∃ n : Notice, s.sink.accepts n.level = true ∧
        l = (n.level, n.message s.config.label) := by
  obtain ⟨-, -, kept, console, hkept, hconsole, hwanted⟩ :=
    wantedLines_exec ({ s with kept := [] } : Session α) c
  refine ⟨console, hconsole, ?_⟩
  -- the command starts with no line kept
  show ∀ l ∈ ({ s with kept := [] } : Session α).exec c |>.2.kept ++ console, _
  rw [hkept, List.nil_append]
  exact hwanted

end Session

/-- Diagnostics never run under the gate's lock, and reach a sink only at a level it wants. On
the machine, a step that hands a line to the sink is taken by a thread at an emit point, after the
critical section that decided the line: it adds that one line, leaves the gate and every other
thread as they were, and does the same whatever the gate holds, so it neither reads nor changes
anything the lock guards, and a sink that reads or changes the gate from inside can take the
lock. On a session, for every command and every sink, the lines the command leaves with the sink,
kept or written to the console, are notices whose level the sink wants, each logged at that level
with its message under the gate's label: a sink that does not want a level receives no line of
it. On the machine too, every hand-over is one emit: a step adds a line to what any sink logs
only as the emit step of a notice whose level the sink wants, and then exactly that notice's line,
whichever of the gate's lines it is. -/
theorem notices_reach_sink_outside_lock :
    (∀ (m m' : Machine α) (t : Nat) (a : Act α), m.step t a = some m' →
      m'.offered ≠ m.offered →
      ∃ n more, m.threads[t]? = some (.emit n more) ∧ a = .run ∧
        m'.offered = m.offered ++ [(t, n)] ∧ m'.gate = m.gate ∧
        (∀ u, u ≠ t → m'.threads[u]? = m.threads[u]?) ∧
        ∀ g : Gate α, { m with gate := g }.step t a = some { m' with gate := g }) ∧
    (∀ (s : Session α) (c : Command α),
      ∃ console, (s.step (.ok c)).after.console = s.console ++ console ∧
        ∀ l ∈ (s.step (.ok c)).lines ++ console, ∃ n : Notice,
          s.sink.accepts n.level = true ∧ l = (n.level, n.message s.config.label)) ∧
    (∀ (sink : Sink) (label : String) (m m' : Machine α) (t : Nat) (a : Act α),
      m.step t a = some m' →
      m'.logged sink label = m.logged sink label ∨
        ∃ n more, m.threads[t]? = some (.emit n more) ∧ sink.accepts n.level = true ∧
          m'.logged sink label = m.logged sink label ++ [(t, n.level, n.message label)]) :=
  ⟨fun _ _ _ _ h hoffered => Machine.step_offers h hoffered,
    fun s c => s.step_lines_wanted c,
    fun sink label _ _ _ _ h => Machine.step_logged h sink label⟩

end WaitGate
