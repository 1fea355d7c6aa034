import StageGate.Proofs.ReconcilerHistory

/-!
Where sweeps stop. A sweep that is not passed stops at one check, and the run of a stepper then stays at
the stage of that check; a run whose sweep is passed leaves the stepper converged. So the stepper that a
reconcile leaves is known from the checks alone.
-/

namespace StageGate

section
variable {World : Type}

/-- The checks are all passed. -/
structure Passes (h : Host World) (subject : Value) (cs : List (Check World)) (t : Token) (w : World)
    (p : Ran World (Option Fault)) : Prop where
  sweep : Sweep h subject cs t w p
  passed : p.result = none

/-- Why a check is not passed. -/
inductive Check.Fails (c : Check World) (h : Host World) (subject : Value) (t : Token) (w : World) :
    Fault → Prop where
  | cancelled (ht : t.fired (h.now w) = true) : Fails c h subject t w c.cancelled
  | raised {f} (ht : t.fired (h.now w) = false) (hr : (c.run h subject t w).result = .error f) :
      Fails c h subject t w f
  | refused {a} (ht : t.fired (h.now w) = false) (hr : (c.run h subject t w).result = .ok a)
      (ha : a ≠ .ready) : Fails c h subject t w c.refused

/-- The checks before a check are passed, and that one is not. -/
inductive StopsAt (h : Host World) (subject : Value) :
    List (Check World) → Token → World → Check World → Fault → Prop where
  | here {c cs t w f} (hf : c.Fails h subject t w f) : StopsAt h subject (c :: cs) t w c f
  | later {c cs t w d f} (ht : t.fired (h.now w) = false)
      (hr : (c.run h subject t w).result = .ok .ready)
      (hrest : StopsAt h subject cs (c.run h subject t w).token (c.run h subject t w).world d f) :
      StopsAt h subject (c :: cs) t w d f

variable {h : Host World} {subject : Value} {c d : Check World} {cs ds : List (Check World)}
  {t : Token} {w : World} {p r : Ran World (Option Fault)} {f g : Fault}

theorem passes_nil : Passes h subject [] t w p ↔ p = ⟨none, t, w, []⟩ := by
  constructor
  · rintro ⟨⟨⟩, -⟩
    rfl
  · rintro rfl
    exact ⟨.done, rfl⟩

theorem passes_cons :
    Passes h subject (c :: cs) t w p ↔
      t.fired (h.now w) = false ∧ (c.run h subject t w).result = .ok .ready ∧
        ∃ rest, Passes h subject cs (c.run h subject t w).token (c.run h subject t w).world rest ∧
          p = { rest with effects := c.effects h subject t w ++ rest.effects } := by
  constructor
  · rintro ⟨hs, hp⟩
    cases hs with
    | cancelled | raised | refused => simp at hp
    | passed ht hr hrest => exact ⟨ht, hr, _, ⟨hrest, hp⟩, rfl⟩
  · rintro ⟨ht, hr, rest, ⟨hrest, hp⟩, rfl⟩
    exact ⟨.passed ht hr hrest, hp⟩

theorem passes_append :
    Passes h subject (cs ++ ds) t w p ↔
      ∃ first second, Passes h subject cs t w first ∧
        Passes h subject ds first.token first.world second ∧
        p = { second with effects := first.effects ++ second.effects } := by
  induction cs generalizing t w p with
  | nil => simp [passes_nil]
  | cons c cs ih =>
    simp only [List.cons_append, passes_cons, ih]
    constructor
    · rintro ⟨ht, hr, _, ⟨first, second, hfirst, hsecond, rfl⟩, rfl⟩
      exact ⟨_, second, ⟨ht, hr, first, hfirst, rfl⟩, hsecond, by simp⟩
    · rintro ⟨_, second, ⟨ht, hr, first, hfirst, rfl⟩, hsecond, rfl⟩
      exact ⟨ht, hr, _, ⟨first, second, hfirst, hsecond, rfl⟩, by simp⟩

/-- A check that begins and does not come back ready ends the sweep. -/
theorem Check.sweep_ended (ht : t.fired (h.now w) = false)
    (hr : (c.run h subject t w).result ≠ .ok .ready) (cs : List (Check World)) :
    ∃ f, Sweep h subject (c :: cs) t w ⟨some f, (c.run h subject t w).token,
      (c.run h subject t w).world, c.effects h subject t w⟩ := by
  cases hresult : (c.run h subject t w).result with
  | error f => exact ⟨f, .raised ht hresult⟩
  | ok a => exact ⟨c.refused, .refused ht hresult fun ha => hr (ha ▸ hresult)⟩

theorem Check.Fails.not_ready (hf : c.Fails h subject t w f) (ht : t.fired (h.now w) = false) :
    (c.run h subject t w).result ≠ .ok .ready := by
  cases hf with
  | cancelled ht' => simp [ht] at ht'
  | raised _ hr => simp [hr]
  | refused _ hr ha => simpa [hr] using ha

theorem Check.Fails.deterministic (hf : c.Fails h subject t w f) (hg : c.Fails h subject t w g) :
    f = g := by
  cases hf with
  | cancelled ht =>
    cases hg with
    | cancelled => rfl
    | raised ht' | refused ht' => simp [ht] at ht'
  | raised ht hr =>
    cases hg with
    | cancelled ht' => simp [ht] at ht'
    | raised _ hr' => simpa [hr] using hr'
    | refused _ hr' => simp [hr] at hr'
  | refused ht hr ha =>
    cases hg with
    | cancelled ht' => simp [ht] at ht'
    | raised _ hr' => simp [hr] at hr'
    | refused => rfl

namespace StopsAt

theorem deterministic (hc : StopsAt h subject cs t w c f) (hd : StopsAt h subject cs t w d g) :
    c = d ∧ f = g := by
  induction hc with
  | here hf =>
    cases hd with
    | here hg => exact ⟨rfl, hf.deterministic hg⟩
    | later ht hr => exact absurd hr (hf.not_ready ht)
  | later ht hr _ ih =>
    cases hd with
    | here hg => exact absurd hr (hg.not_ready ht)
    | later _ _ hrest => exact ih hrest

theorem mem (hc : StopsAt h subject cs t w c f) : c ∈ cs := by
  induction hc with
  | here => exact List.mem_cons_self
  | later _ _ _ ih => exact List.mem_cons_of_mem _ ih

theorem append (hc : StopsAt h subject cs t w c f) (ds : List (Check World)) :
    StopsAt h subject (cs ++ ds) t w c f := by
  induction hc with
  | here hf => exact .here hf
  | later ht hr _ ih => exact .later ht hr ih

theorem of_passes (hp : Passes h subject cs t w p)
    (hd : StopsAt h subject ds p.token p.world d f) : StopsAt h subject (cs ++ ds) t w d f := by
  induction cs generalizing t w p with
  | nil =>
    obtain rfl := passes_nil.mp hp
    exact hd
  | cons c cs ih =>
    obtain ⟨ht, hr, rest, hrest, rfl⟩ := passes_cons.mp hp
    exact .later ht hr (ih hrest hd)

/-- A sweep does not stop at checks that are passed. -/
theorem mem_of_passes (hp : Passes h subject cs t w p) (hc : StopsAt h subject (cs ++ ds) t w c f) :
    c ∈ ds := by
  induction cs generalizing t w p with
  | nil => exact hc.mem
  | cons d cs ih =>
    obtain ⟨ht, hr, rest, hrest, -⟩ := passes_cons.mp hp
    cases hc with
    | here hf => exact absurd hr (hf.not_ready ht)
    | later _ _ hlater => exact ih hrest hlater

theorem not_passes (hc : StopsAt h subject cs t w c f) : ¬ Passes h subject cs t w p := by
  intro hp
  induction hc generalizing p with
  | here hf =>
    obtain ⟨ht, hr, -⟩ := passes_cons.mp hp
    exact hf.not_ready ht hr
  | later _ _ _ ih =>
    obtain ⟨-, -, rest, hrest, -⟩ := passes_cons.mp hp
    exact ih hrest

/-- A stop splits the checks into those that are passed, the one that is not, and those not reached. -/
theorem exists_split (hc : StopsAt h subject cs t w c f) :
    ∃ before after p, cs = before ++ c :: after ∧ Passes h subject before t w p ∧
      c.Fails h subject p.token p.world f := by
  induction hc with
  | here hf => exact ⟨[], _, _, rfl, passes_nil.mpr rfl, hf⟩
  | later ht hr _ ih =>
    obtain ⟨before, after, p, rfl, hp, hf⟩ := ih
    exact ⟨_ :: before, after, _, rfl, passes_cons.mpr ⟨ht, hr, p, hp, rfl⟩, hf⟩

end StopsAt

/-- A sweep is passed, or it stops at a check for the fault that it comes to. -/
theorem Sweep.passes_or_stopsAt (hs : Sweep h subject cs t w r) :
    Passes h subject cs t w r ∨ ∃ c f, r.result = some f ∧ StopsAt h subject cs t w c f := by
  induction hs with
  | done => exact .inl ⟨.done, rfl⟩
  | cancelled ht => exact .inr ⟨_, _, rfl, .here (.cancelled ht)⟩
  | raised ht hr => exact .inr ⟨_, _, rfl, .here (.raised ht hr)⟩
  | refused ht hr ha => exact .inr ⟨_, _, rfl, .here (.refused ht hr ha)⟩
  | passed ht hr _ ih =>
    rcases ih with hp | ⟨c, f, hf, hc⟩
    · exact .inl (passes_cons.mpr ⟨ht, hr, _, hp, rfl⟩)
    · exact .inr ⟨c, f, hf, .later ht hr hc⟩

theorem Stage.position_of_mem {s : Stage World} {n : Nat} (hc : c ∈ s.checks n) : c.position = n := by
  obtain ⟨_, -, rfl⟩ := List.mem_map.mp hc
  rfl

/-- A check among those of stages belongs to the stage at its position, and the checks of all stages
before that one come before it. -/
theorem checksFrom_split {n : Nat} {ss : List (Stage World)} {before after : List (Check World)}
    (hsplit : checksFrom n ss = before ++ c :: after) :
    ∃ earlier later, ss = earlier ++ c.stage :: later ∧ c.position = n + earlier.length ∧
      checksFrom n earlier <+: before := by
  induction ss generalizing n before with
  | nil => simp at hsplit
  | cons s ss ih =>
    rw [checksFrom_cons] at hsplit
    have hcases : (∃ between, before = s.checks n ++ between ∧
        checksFrom (n + 1) ss = between ++ c :: after) ∨ c ∈ s.checks n := by
      rcases List.append_eq_append_iff.mp hsplit with ⟨between, hbefore, hrest⟩ | ⟨between, hs, hrest⟩
      · exact .inl ⟨between, hbefore, hrest⟩
      · cases between with
        | nil => exact .inl ⟨[], by simpa using hs.symm, hrest.symm⟩
        | cons c' between =>
          obtain ⟨rfl, -⟩ := List.cons.inj hrest
          exact .inr (by simp [hs])
    rcases hcases with ⟨between, rfl, hrest⟩ | hc
    · obtain ⟨earlier, later, rfl, hposition, hprefix⟩ := ih hrest
      refine ⟨s :: earlier, later, rfl, ?_, ?_⟩
      · rw [hposition, List.length_cons]
        omega
      · rw [checksFrom_cons]
        exact (List.prefix_append_right_inj _).mpr hprefix
    · obtain ⟨hstage, -⟩ := Stage.mem_checks hc
      exact ⟨[], ss, by rw [hstage]; rfl, Stage.position_of_mem hc, List.nil_prefix⟩

/-- Among the checks of stages none stands at a later position than one that comes after it. -/
theorem checksFrom_pairwise (n : Nat) (ss : List (Stage World)) :
    (checksFrom n ss).Pairwise (fun c d => c.position ≤ d.position) ∧
      ∀ c ∈ checksFrom n ss, n ≤ c.position ∧ c.position < n + ss.length := by
  induction ss generalizing n with
  | nil => simp
  | cons s ss ih =>
    obtain ⟨hrest, hbounds⟩ := ih (n + 1)
    have hfirst (c : Check World) (hc : c ∈ s.checks n) : c.position = n := Stage.position_of_mem hc
    rw [checksFrom_cons]
    constructor
    · rw [List.pairwise_append]
      refine ⟨?_, hrest, ?_⟩
      · refine List.pairwise_of_forall_mem_list fun c hc d hd => ?_
        exact Nat.le_of_eq ((hfirst c hc).trans (hfirst d hd).symm)
      · intro c hc d hd
        have hd' := (hbounds d hd).1
        rw [hfirst c hc]
        omega
    · intro c hc
      rw [List.length_cons]
      rcases List.mem_append.mp hc with hc | hc
      · rw [hfirst c hc]
        omega
      · have hc' := hbounds c hc
        omega

/-- From a check on none stands at an earlier position. -/
theorem checksFrom_position_le {n : Nat} {ss : List (Stage World)} {before after : List (Check World)}
    (hsplit : checksFrom n ss = before ++ c :: after) (hd : d ∈ c :: after) :
    c.position ≤ d.position := by
  have hpairwise := (checksFrom_pairwise n ss).1
  rw [hsplit, List.pairwise_append] at hpairwise
  obtain ⟨hlater, -⟩ := List.pairwise_cons.mp hpairwise.2.1
  rcases List.mem_cons.mp hd with rfl | hd
  · exact Nat.le_refl _
  · exact hlater d hd

end

namespace Stepper

/-- The stepper after a sweep over the checks it had still to pass: past all stages, or held up. -/
inductive Ends {World : Type} (h : Host World) (subject : Value) (s : Stepper World) (t : Token)
    (w : World) : Stepper World × Option Fault → Prop where
  | converged {p} (hp : Passes h subject s.remaining t w p) :
      Ends h subject s t w ({ s with cursor := s.stages.length, phase := .converged }, none)
  | blocked {c f} (hc : StopsAt h subject s.remaining t w c f) :
      Ends h subject s t w
        ({ s with cursor := c.position, phase := .blocked, lastFault := some f }, some f)

variable {World : Type} {h : Host World} {subject : Value} {s : Stepper World} {t : Token} {w : World}

theorem Runs.ends {ran : Stepped World} (hr : Runs h subject s t w ran)
    (hphase : s.phase = s.phaseAt s.cursor) (hle : s.cursor ≤ s.stages.length) :
    Ends h subject s t w ran.result := by
  induction hr with
  | @converged s t w hc =>
    obtain ⟨-, hlast⟩ := isConverged_iff.mp hc
    have hpasses : Passes h subject s.remaining t w ⟨none, t, w, []⟩ := by
      rw [remaining_of_converged hc]
      exact passes_nil.mpr rfl
    have hs : { s with cursor := s.stages.length, phase := .converged } = s := by
      rw [(phaseAt_eq_converged _).mpr hlast] at hphase
      rw [← hlast, ← hphase]
    have hends := Ends.converged hpasses
    rwa [hs] at hends
  | @stopped s t w s' f t' w' es hc hs =>
    have hsteps := step_steps h subject s t w
    rw [hs] at hsteps
    cases hsteps with
    | idle hi => exact absurd (hphase.symm.trans hi) (phaseAt_ne_idle _)
    | spent hp hnone =>
      have hlen : s.cursor = s.stages.length := Nat.le_antisymm hle (current?_eq_none.mp hnone)
      simp [isConverged_iff.mpr ⟨hp, hlen⟩] at hc
    | @blocked stage r f _ hcur hsweep hres =>
      rcases hsweep.passes_or_stopsAt with hpasses | ⟨c, f', hf', hstop⟩
      · simp [hpasses.passed] at hres
      · obtain rfl : f' = f := Option.some.inj (hf'.symm.trans hres)
        have hstop' : StopsAt h subject s.remaining t w c f' := by
          rw [remaining_of_current hcur]
          exact hstop.append _
        have hends := Ends.blocked hstop'
        rwa [Stage.position_of_mem hstop.mem] at hends
  | @stepped s t w s' t' w' es rest hc hs _ ih =>
    have hsteps := step_steps h subject s t w
    rw [hs] at hsteps
    cases hsteps with
    | @passed stage r _ hcur hsweep hres =>
      have hfirst : Passes h subject (stage.checks s.cursor) t w r := ⟨hsweep, hres⟩
      have hrest : Ends h subject s.advance r.token r.world rest.result := ih rfl (current?_lt hcur)
      change Ends h subject s t w rest.result
      generalize rest.result = result at hrest ⊢
      cases hrest with
      | converged hp =>
        have hpasses : Passes h subject s.remaining t w _ :=
          remaining_of_current hcur ▸ passes_append.mpr ⟨r, _, hfirst, hp, rfl⟩
        exact .converged hpasses
      | blocked hc =>
        have hstop : StopsAt h subject s.remaining t w _ _ :=
          remaining_of_current hcur ▸ StopsAt.of_passes hfirst hc
        exact .blocked hstop

end Stepper

namespace Reconciler
variable {World : Type} {settings : Settings World} {h : Host World} {r : Reconciler World}
  {i : Identity} {t t' : Token} {w w' : World} {subject : Value} {ss : List (Stage World)}

/-- What a reconcile comes to once it has fetched the instance and loaded the stages, by the sweep over
the checks of all stages; `s` is the stepper that it leaves. -/
structure Swept (settings : Settings World) (h : Host World) (i : Identity) (subject : Value)
    (ss : List (Stage World)) (t' : Token) (w' : World) (swept : Ran World (Option Fault))
    (s : Stepper World) (ran : Reconciled World) : Prop where
  sweep : Sweep h subject (checksFrom 0 ss) t' w' swept
  outcome : ran.result.2 = .ok ⟨swept.result.isSome, swept.result⟩
  token : ran.token = swept.token
  world : ran.world = swept.world
  acts : Stepper.acts ran.effects =
    .lookup (instanceLookup settings i) :: Stepper.acts swept.effects
  registered : ran.result.1.registry.find? i = some s
  stages : s.stages = ss
  converged : Passes h subject (checksFrom 0 ss) t' w' swept →
    s.phase = .converged ∧ s.cursor = ss.length
  blocked : ∀ c f, StopsAt h subject (checksFrom 0 ss) t' w' c f →
    s.phase = .blocked ∧ s.cursor = c.position ∧ s.lastFault = some f

theorem Coherent.reconcileWith_swept (hr : Coherent settings r) (ht : t.fired (h.now w) = false)
    (hg : h.get (instanceLookup settings i) t w = (.ok subject, t', w'))
    (hl : (r.catalog.stages settings.source w').2.result = .ok ss) :
    ∃ swept s, Swept settings h i subject ss t' w' swept s (r.reconcileWith settings h i t w) := by
  let s := (Stepper.new (some i.text)).restart subject ss
  have hs : (r.registry.get i).restart subject ss = s := hr.restart_eq_new i subject hl
  have hremaining : s.remaining = checksFrom 0 ss := rfl
  have hruns := Stepper.run_runs h subject s t' w'
  have hphase : s.phase ≠ .idle := Stepper.phaseAt_ne_idle 0
  obtain ⟨swept, hsweep, hresult, htoken, hworld, hacts⟩ := hruns.sweep hphase (Nat.zero_le _)
  have hends := hruns.ends rfl (Nat.zero_le _)
  rw [hremaining] at hsweep
  refine ⟨swept, (s.run h subject t' w').result.1, ?_⟩
  rw [reconcileWith_fetched ht hg, load_of_ok hl]
  let r' : Reconciler World := ⟨(r.catalog.stages settings.source w').1, r.registry⟩
  have hresult' := apply_result (h := h) r' i subject ss t' w'
  have hacts' := apply_acts (h := h) r' i subject ss t' w'
  obtain ⟨htoken', hworld'⟩ := apply_after (h := h) r' i subject ss t' w'
  simp only [r', hs] at hresult' hacts' htoken' hworld'
  constructor
  case sweep => exact hsweep
  case outcome => rw [hresult', hresult]
  case token => exact htoken'.trans htoken.symm
  case world => exact hworld'.trans hworld.symm
  case acts => simp [hacts', hacts]
  case registered => simp only [hresult', Registry.find?_set_self]
  case stages => exact hruns.stages
  case converged =>
    intro hp
    generalize (s.run h subject t' w').result = result at hends hresult
    cases hends with
    | converged => exact ⟨rfl, rfl⟩
    | blocked hc => exact absurd hp hc.not_passes
  case blocked =>
    intro c f hc
    generalize (s.run h subject t' w').result = result at hends hresult
    cases hends with
    | converged hp => exact absurd hp hc.not_passes
    | blocked hc' =>
      obtain ⟨rfl, rfl⟩ := hc.deterministic hc'
      exact ⟨rfl, rfl, rfl⟩

theorem Swept.done {swept : Ran World (Option Fault)} {s : Stepper World} {ran : Reconciled World}
    (hs : Swept settings h i subject ss t' w' swept s ran)
    {p : Ran World (Option Fault)} (hp : Passes h subject (checksFrom 0 ss) t' w' p) :
    ran.result.2 = .ok .done ∧ s.phase = .converged ∧ s.cursor = ss.length := by
  obtain rfl : p = swept := hp.sweep.deterministic hs.sweep
  refine ⟨?_, hs.converged hp⟩
  rw [hs.outcome, hp.passed]
  rfl

theorem Swept.retry {swept : Ran World (Option Fault)} {s : Stepper World} {ran : Reconciled World}
    (hs : Swept settings h i subject ss t' w' swept s ran)
    {c : Check World} {f : Fault} (hc : StopsAt h subject (checksFrom 0 ss) t' w' c f) :
    ran.result.2 = .ok (.retry f) ∧ s.phase = .blocked ∧ s.cursor = c.position ∧
      s.lastFault = some f := by
  refine ⟨?_, hs.blocked c f hc⟩
  rcases hs.sweep.passes_or_stopsAt with hp | ⟨c', f', hf', hc'⟩
  · exact absurd hp hc.not_passes
  · obtain ⟨-, rfl⟩ := hc.deterministic hc'
    rw [hs.outcome, hf']
    rfl

end Reconciler
end StageGate
