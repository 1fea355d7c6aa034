import StageGate.Proofs.Sweep

/-!
Steps and runs of a stepper. Every step is one of four kinds, and a run is the loop "while not
converged, step": the bound on the number of its steps is never met.
-/

namespace StageGate
namespace Stepper

/-- The kinds of steps, with all that a step does. -/
inductive Steps {World : Type} (h : Host World) (subject : Value) (s : Stepper World) (t : Token)
    (w : World) : Stepped World → Prop where
  | idle (hp : s.phase = .idle) : Steps h subject s t w ⟨(s, some (.misuse .idle)), t, w, []⟩
  | spent (hp : s.phase ≠ .idle) (hc : s.current? = none) :
      Steps h subject s t w ⟨(s, some (.misuse .converged)), t, w, []⟩
  | blocked {stage r f} (hp : s.phase ≠ .idle) (hc : s.current? = some stage)
      (hs : Sweep h subject (stage.checks s.cursor) t w r) (hr : r.result = some f) :
      Steps h subject s t w ⟨(s.block f, some f), r.token, r.world, r.effects⟩
  | passed {stage r} (hp : s.phase ≠ .idle) (hc : s.current? = some stage)
      (hs : Sweep h subject (stage.checks s.cursor) t w r) (hr : r.result = none) :
      Steps h subject s t w ⟨(s.advance, none), r.token, r.world,
        r.effects ++ [.logged (s.advanceEvent stage)]⟩

/-- The loop of a run. -/
inductive Runs {World : Type} (h : Host World) (subject : Value) :
    Stepper World → Token → World → Stepped World → Prop where
  | converged {s t w} (hc : s.isConverged = true) : Runs h subject s t w ⟨(s, none), t, w, []⟩
  | stopped {s t w s' f t' w' es} (hc : s.isConverged = false)
      (hs : s.step h subject t w = ⟨(s', some f), t', w', es⟩) :
      Runs h subject s t w ⟨(s', some f), t', w', es⟩
  | stepped {s t w s' t' w' es rest} (hc : s.isConverged = false)
      (hs : s.step h subject t w = ⟨(s', none), t', w', es⟩)
      (hrest : Runs h subject s' t' w' rest) :
      Runs h subject s t w { rest with effects := es ++ rest.effects }

/-- The effects other than records in the log. -/
def acts (es : List Effect) : List Effect :=
  es.filter fun e => e.event?.isNone

@[simp] theorem acts_nil : acts [] = [] := rfl

@[simp] theorem acts_append (es fs : List Effect) : acts (es ++ fs) = acts es ++ acts fs :=
  List.filter_append ..

@[simp] theorem acts_logged (e : Event) (es : List Effect) : acts (.logged e :: es) = acts es := rfl

@[simp] theorem acts_lookup (l : Lookup) (es : List Effect) :
    acts (.lookup l :: es) = .lookup l :: acts es := rfl

@[simp] theorem acts_map_logged (events : List Event) : acts (events.map .logged) = [] := by
  induction events with
  | nil => rfl
  | cons e events ih => simpa using ih

variable {World : Type} {h : Host World} {subject : Value} {s s' : Stepper World} {t : Token} {w : World}

@[simp] theorem block_stages (f : Fault) : (s.block f).stages = s.stages := rfl

@[simp] theorem block_cursor (f : Fault) : (s.block f).cursor = s.cursor := rfl

@[simp] theorem block_phase (f : Fault) : (s.block f).phase = .blocked := rfl

@[simp] theorem block_lastFault (f : Fault) : (s.block f).lastFault = some f := rfl

@[simp] theorem advance_stages : s.advance.stages = s.stages := rfl

@[simp] theorem advance_cursor : s.advance.cursor = s.cursor + 1 := rfl

@[simp] theorem advance_phase : s.advance.phase = s.phaseAt (s.cursor + 1) := rfl

theorem restart_stages (s : Stepper World) (subject : Value) (stages : List (Stage World)) :
    (s.restart subject stages).stages = if s.stages.isEmpty then stages else s.stages := rfl

@[simp] theorem restart_cursor (s : Stepper World) (subject : Value) (stages : List (Stage World)) :
    (s.restart subject stages).cursor = 0 := rfl

theorem restart_phase (s : Stepper World) (subject : Value) (stages : List (Stage World)) :
    (s.restart subject stages).phase = (s.restart subject stages).phaseAt 0 := rfl

/-- Starting over looks only at the owner and the stages that were there before. -/
theorem restart_congr {s' : Stepper World} (subject : Value) (stages : List (Stage World))
    (ho : s.owner = s'.owner)
    (hs : (s.restart subject stages).stages = (s'.restart subject stages).stages) :
    s.restart subject stages = s'.restart subject stages := by
  rw [restart_stages, restart_stages] at hs
  simp only [restart, phaseAt, ho, hs]

theorem phaseAt_ne_idle (n : Nat) : s.phaseAt n ≠ .idle := by
  unfold phaseAt
  split <;> simp

theorem phaseAt_ne_blocked (n : Nat) : s.phaseAt n ≠ .blocked := by
  unfold phaseAt
  split <;> simp

theorem phaseAt_eq_converged (n : Nat) : s.phaseAt n = .converged ↔ n = s.stages.length := by
  simp [phaseAt]

theorem current?_lt {stage : Stage World} (hc : s.current? = some stage) :
    s.cursor < s.stages.length :=
  (List.getElem?_eq_some_iff.mp hc).1

theorem current?_eq_none : s.current? = none ↔ s.stages.length ≤ s.cursor :=
  List.getElem?_eq_none_iff

theorem isConverged_iff : s.isConverged = true ↔ s.phase ≠ .idle ∧ s.cursor = s.stages.length := by
  simp [isConverged]

theorem step_steps (h : Host World) (subject : Value) (s : Stepper World) (t : Token) (w : World) :
    Steps h subject s t w (s.step h subject t w) := by
  by_cases hp : s.phase = .idle
  · simpa [step, hp] using Steps.idle hp
  have hp' : (s.phase == .idle) = false := by simpa using hp
  cases hc : s.current? with
  | none => simpa [step, hp', hc] using Steps.spent hp hc
  | some stage =>
    have hs := runControls_sweep h subject s.cursor stage 0 stage.controls t w
    cases hr : (runControls h subject s.cursor stage 0 stage.controls t w).result with
    | some f => simpa [step, hp', hc, hr] using Steps.blocked hp hc hs hr
    | none => simpa [step, hp', hc, hr] using Steps.passed hp hc hs hr

theorem Steps.stages {ran : Stepped World} (hs : Steps h subject s t w ran) :
    ran.result.1.stages = s.stages := by
  cases hs <;> rfl

theorem Steps.cursor {ran : Stepped World} (hs : Steps h subject s t w ran) :
    s.cursor ≤ ran.result.1.cursor ∧ ran.result.1.cursor ≤ s.cursor + 1 := by
  cases hs <;> simp

theorem Steps.owner {ran : Stepped World} (hs : Steps h subject s t w ran) :
    ran.result.1.owner = s.owner := by
  cases hs <;> rfl

/-- A step that is not stopped passes a stage. -/
theorem step_passed {t' : Token} {w' : World} {es : List Effect}
    (hs : s.step h subject t w = ⟨(s', none), t', w', es⟩) :
    s' = s.advance ∧ s.phase ≠ .idle ∧ s.cursor < s.stages.length := by
  have hsteps := step_steps h subject s t w
  rw [hs] at hsteps
  cases hsteps with
  | passed hp hc => exact ⟨rfl, hp, current?_lt hc⟩

/-- A step with a stage before it is a sweep of that stage. -/
theorem step_sweep (h : Host World) (subject : Value) (t : Token) (w : World) {stage : Stage World}
    (hp : s.phase ≠ .idle) (hc : s.current? = some stage) :
    ∃ r, Sweep h subject (stage.checks s.cursor) t w r ∧
      ((r.result = none ∧ s.step h subject t w =
          ⟨(s.advance, none), r.token, r.world, r.effects ++ [.logged (s.advanceEvent stage)]⟩) ∨
        ∃ f, r.result = some f ∧
          s.step h subject t w = ⟨(s.block f, some f), r.token, r.world, r.effects⟩) := by
  have hsteps := step_steps h subject s t w
  generalize s.step h subject t w = ran at hsteps
  cases hsteps with
  | idle hidle => exact absurd hidle hp
  | spent _ hnone => simp [hc] at hnone
  | @blocked stage' r f _ hc' hs hr =>
    cases hc.symm.trans hc'
    exact ⟨r, hs, .inr ⟨f, hr, rfl⟩⟩
  | @passed stage' r _ hc' hs hr =>
    cases hc.symm.trans hc'
    exact ⟨r, hs, .inl ⟨hr, rfl⟩⟩

/-- A step gets the cursor on exactly when the sweep of the current stage is passed. -/
theorem step_advance_iff {stage : Stage World} (hc : s.current? = some stage) :
    s.cursor < (s.step h subject t w).result.1.cursor ↔
      s.phase ≠ .idle ∧ ∃ r, Sweep h subject (stage.checks s.cursor) t w r ∧ r.result = none := by
  by_cases hp : s.phase = .idle
  · simp [step, hp]
  obtain ⟨r, hs, ⟨hr, hstep⟩ | ⟨f, hr, hstep⟩⟩ := step_sweep h subject t w hp hc
  · rw [hstep]
    exact iff_of_true (Nat.lt_succ_self _) ⟨hp, r, hs, hr⟩
  · rw [hstep]
    refine iff_of_false (Nat.lt_irrefl _) ?_
    rintro ⟨-, r', hs', hr'⟩
    cases hs.deterministic hs'
    simp [hr] at hr'

theorem runFor_runs {n : Nat} (hn : s.stages.length - s.cursor < n) :
    Runs h subject s t w (runFor h subject n s t w) := by
  induction n generalizing s t w with
  | zero => omega
  | succ n ih =>
    unfold runFor
    cases hc : s.isConverged with
    | true => exact .converged hc
    | false =>
      rcases hs : s.step h subject t w with ⟨⟨s', _ | f⟩, t', w', es⟩
      · obtain ⟨rfl, _, hlt⟩ := step_passed hs
        have hn' : s.advance.stages.length - s.advance.cursor < n := by
          simp only [advance_stages, advance_cursor]
          omega
        exact .stepped hc hs (ih hn')
      · exact .stopped hc hs

/-- A run ends only by converging or by a step that is stopped. -/
theorem run_runs (h : Host World) (subject : Value) (s : Stepper World) (t : Token) (w : World) :
    Runs h subject s t w (s.run h subject t w) :=
  runFor_runs (Nat.lt_succ_self _)

theorem Runs.stages {ran : Stepped World} (hr : Runs h subject s t w ran) :
    ran.result.1.stages = s.stages := by
  induction hr with
  | converged => rfl
  | @stopped s t w s' f t' w' es hc hs => simpa [hs] using (step_steps h subject s t w).stages
  | @stepped s t w s' t' w' es rest hc hs _ ih =>
    exact ih.trans (by simpa [hs] using (step_steps h subject s t w).stages)

theorem Runs.owner {ran : Stepped World} (hr : Runs h subject s t w ran) :
    ran.result.1.owner = s.owner := by
  induction hr with
  | converged => rfl
  | @stopped s t w s' f t' w' es hc hs => simpa [hs] using (step_steps h subject s t w).owner
  | @stepped s t w s' t' w' es rest hc hs _ ih =>
    exact ih.trans (by simpa [hs] using (step_steps h subject s t w).owner)

/-- The checks that a stepper has still to pass. -/
def remaining (s : Stepper World) : List (Check World) :=
  checksFrom s.cursor (s.stages.drop s.cursor)

theorem remaining_of_current {stage : Stage World} (hc : s.current? = some stage) :
    s.remaining = stage.checks s.cursor ++ s.advance.remaining := by
  obtain ⟨hlt, hstage⟩ := List.getElem?_eq_some_iff.mp hc
  unfold remaining
  rw [List.drop_eq_getElem_cons hlt, checksFrom_cons, hstage]
  rfl

theorem remaining_of_converged (hc : s.isConverged = true) : s.remaining = [] := by
  have hlen := (isConverged_iff.mp hc).2
  simp [remaining, hlen]

/-- A run is one sweep over all remaining checks, apart from what it logs between stages: any selection of
effects that leaves those records out is the same. -/
theorem Runs.sweep_filter {ran : Stepped World} (hr : Runs h subject s t w ran) (hp : s.phase ≠ .idle)
    (hle : s.cursor ≤ s.stages.length) :
    ∃ r, Sweep h subject s.remaining t w r ∧ r.result = ran.result.2 ∧ r.token = ran.token ∧
      r.world = ran.world ∧ ∀ keep : Effect → Bool,
        (∀ owner stage n m, keep (.logged (.stageReady owner stage n m)) = false) →
          r.effects.filter keep = ran.effects.filter keep := by
  induction hr with
  | converged hc =>
    rw [remaining_of_converged hc]
    exact ⟨_, .done, rfl, rfl, rfl, fun _ _ => rfl⟩
  | @stopped s t w s' f t' w' es hc hs =>
    have hsteps := step_steps h subject s t w
    rw [hs] at hsteps
    cases hsteps with
    | idle hi => exact absurd hi hp
    | spent _ hnone =>
      have hlen : s.cursor = s.stages.length := Nat.le_antisymm hle (current?_eq_none.mp hnone)
      simp [isConverged_iff.mpr ⟨hp, hlen⟩] at hc
    | @blocked stage r f _ hcur hsweep hres =>
      rw [remaining_of_current hcur]
      exact ⟨r, hsweep.append_of_stopped hres, hres, rfl, rfl, fun _ _ => rfl⟩
  | @stepped s t w s' t' w' es rest hc hs _ ih =>
    have hsteps := step_steps h subject s t w
    rw [hs] at hsteps
    cases hsteps with
    | @passed stage r _ hcur hsweep hres =>
      obtain ⟨r', hsweep', h1, h2, h3, h4⟩ := ih (phaseAt_ne_idle _) (current?_lt hcur)
      rw [remaining_of_current hcur]
      refine ⟨_, hsweep.append_of_passed hres hsweep', h1, h2, h3, fun keep hkeep => ?_⟩
      simp [advanceEvent, hkeep, h4 keep hkeep]

theorem Runs.sweep {ran : Stepped World} (hr : Runs h subject s t w ran) (hp : s.phase ≠ .idle)
    (hle : s.cursor ≤ s.stages.length) :
    ∃ r, Sweep h subject s.remaining t w r ∧ r.result = ran.result.2 ∧ r.token = ran.token ∧
      r.world = ran.world ∧ acts r.effects = acts ran.effects := by
  obtain ⟨r, hsweep, hresult, htoken, hworld, hkept⟩ := hr.sweep_filter hp hle
  exact ⟨r, hsweep, hresult, htoken, hworld, hkept _ fun _ _ _ _ => rfl⟩

end Stepper
end StageGate
