import StageGate.Proofs.ReconcilerHistory

/-!
The outcome of a reconcile, said of the client, the catalog, and the controls alone. It succeeds when
the instance is gone or every check is passed, and else it comes back with the first failure met.
-/

namespace StageGate

/-- A source that refuses a manifest or else has the same stages every time. -/
def StageSource.Steady {World : Type} (source : StageSource World) (ss : List (Stage World)) : Prop :=
  ∀ w, (source w).result = .ok ss ∨ ∃ f, (source w).result = .error f ∧ f.isDecode = true

theorem StageSource.steady_fixed {World : Type} (ss : List (Stage World)) :
    (StageSource.fixed ss).Steady ss :=
  fun _ => .inl rfl

theorem Catalog.stages_of_steady {World : Type} {c : Catalog World} {source : StageSource World}
    {ss : List (Stage World)} (hsource : source.Steady ss) (hc : c.kept = none ∨ c.kept = some ss)
    (w : World) :
    (c.stages source w).2.result = .ok ss ∨
      ∃ f, (c.stages source w).2.result = .error f ∧ f.isDecode = true := by
  rcases hc with hc | hc
  · rw [stages_of_not_kept hc]
    exact hsource w
  · rw [stages_of_kept hc]
    exact .inl rfl

namespace Reconciler

/-- A reconcile that ends without a fault, with what it does: it finds the instance gone, or it passes
every check of the stages in order. -/
inductive Succeeds {World : Type} (settings : Settings World) (h : Host World) (c : Catalog World)
    (i : Identity) (t : Token) (w : World) : List Effect → Prop where
  | gone {f t' w'} (ht : t.fired (h.now w) = false)
      (hg : h.get (instanceLookup settings i) t w = (.error f, t', w'))
      (hf : f.isNotFound = true) :
      Succeeds settings h c i t w [.lookup (instanceLookup settings i)]
  | passed {subject t' w' ss r} (ht : t.fired (h.now w) = false)
      (hg : h.get (instanceLookup settings i) t w = (.ok subject, t', w'))
      (hl : (c.stages settings.source w').2.result = .ok ss)
      (hs : Sweep h subject (checksFrom 0 ss) t' w' r) (hr : r.result = none) :
      Succeeds settings h c i t w (.lookup (instanceLookup settings i) :: r.effects)

/-- The first failure that a reconcile meets. -/
inductive Fails {World : Type} (settings : Settings World) (h : Host World) (c : Catalog World)
    (i : Identity) (t : Token) (w : World) : Fault → Prop where
  | cancelled (ht : t.fired (h.now w) = true) :
      Fails settings h c i t w (.cancelled (.before "instance fetch"))
  | unfetched {f t' w'} (ht : t.fired (h.now w) = false)
      (hg : h.get (instanceLookup settings i) t w = (.error f, t', w'))
      (hf : f.isNotFound = false) :
      Fails settings h c i t w f
  | unloaded {subject t' w' f} (ht : t.fired (h.now w) = false)
      (hg : h.get (instanceLookup settings i) t w = (.ok subject, t', w'))
      (hl : (c.stages settings.source w').2.result = .error f) :
      Fails settings h c i t w f
  | stopped {subject t' w' ss r f} (ht : t.fired (h.now w) = false)
      (hg : h.get (instanceLookup settings i) t w = (.ok subject, t', w'))
      (hl : (c.stages settings.source w').2.result = .ok ss)
      (hs : Sweep h subject (checksFrom 0 ss) t' w' r) (hr : r.result = some f) :
      Fails settings h c i t w f

variable {World : Type} {settings : Settings World} {h : Host World} {c : Catalog World}
  {r : Reconciler World} {i : Identity} {t : Token} {w : World} {subject : Value}
  {ss : List (Stage World)}

theorem Fails.deterministic {f g : Fault} (hf : Fails settings h c i t w f)
    (hg : Fails settings h c i t w g) : f = g := by
  cases hf with
  | cancelled ht =>
    cases hg with
    | cancelled => rfl
    | unfetched ht' | unloaded ht' | stopped ht' => simp [ht] at ht'
  | unfetched ht hget hf =>
    cases hg with
    | cancelled ht' => simp [ht] at ht'
    | unfetched _ hget' => simp_all
    | unloaded _ hget' | stopped _ hget' => simp [hget] at hget'
  | unloaded ht hget hl =>
    cases hg with
    | cancelled ht' => simp [ht] at ht'
    | unfetched _ hget' => simp [hget] at hget'
    | unloaded _ hget' hl' | stopped _ hget' hl' =>
      cases hget.symm.trans hget'
      simp_all
  | stopped ht hget hl hs hr =>
    cases hg with
    | cancelled ht' => simp [ht] at ht'
    | unfetched _ hget' => simp [hget] at hget'
    | unloaded _ hget' hl' =>
      cases hget.symm.trans hget'
      simp_all
    | stopped _ hget' hl' hs' hr' =>
      cases hget.symm.trans hget'
      cases hl.symm.trans hl'
      cases hs.deterministic hs'
      exact Option.some.inj (hr.symm.trans hr')

theorem Fails.not_succeeds {f : Fault} {es : List Effect} (hf : Fails settings h c i t w f) :
    ¬ Succeeds settings h c i t w es := by
  intro hsucc
  cases hsucc with
  | gone ht hget hgone =>
    cases hf with
    | cancelled ht' => simp [ht] at ht'
    | unfetched _ hget' hf => simp_all
    | unloaded _ hget' | stopped _ hget' => simp [hget] at hget'
  | passed ht hget hl hs hr =>
    cases hf with
    | cancelled ht' => simp [ht] at ht'
    | unfetched _ hget' => simp [hget] at hget'
    | unloaded _ hget' hl' =>
      cases hget.symm.trans hget'
      simp_all
    | stopped _ hget' hl' hs' hr' =>
      cases hget.symm.trans hget'
      cases hl.symm.trans hl'
      cases hs.deterministic hs'
      simp [hr] at hr'

/-- The catalog of a used reconciler with a steady source has no stages yet, or those of the source. -/
theorem Coherent.kept_steady (hr : Coherent settings r) (hsource : settings.source.Steady ss) :
    r.catalog.kept = none ∨ r.catalog.kept = some ss := by
  cases hk : r.catalog.kept with
  | none => exact .inl rfl
  | some ss' =>
    obtain ⟨w, hw⟩ := hr.loaded ss' hk
    rcases hsource w with hok | ⟨f, herr, _⟩
    · simp_all
    · simp [hw] at herr

/-- A stepper of a used reconciler starts over with the stages of a steady source. -/
theorem Coherent.restart_steady (hr : Coherent settings r) (hsource : settings.source.Steady ss)
    (i : Identity) (subject : Value) :
    ((r.registry.get i).restart subject ss).stages = ss := by
  rw [Stepper.restart_stages]
  cases hf : r.registry.find? i with
  | none => simp [Registry.get, hf, Stepper.new]
  | some s =>
    have hget : r.registry.get i = s := by simp [Registry.get, hf]
    rw [hget]
    rcases hr.stages i s hf with hnil | hk
    · simp [hnil]
    · have hstages := hr.kept_steady hsource
      simp_all

theorem Coherent.restart_remaining (hr : Coherent settings r) (hsource : settings.source.Steady ss)
    (i : Identity) (subject : Value) :
    ((r.registry.get i).restart subject ss).remaining = checksFrom 0 ss := by
  unfold Stepper.remaining
  rw [Stepper.restart_cursor, hr.restart_steady hsource i subject, List.drop_zero]

/-- The run of a reconcile is one sweep over the checks of all stages. -/
theorem Coherent.run_sweep (hr : Coherent settings r) (hsource : settings.source.Steady ss)
    (h : Host World) (i : Identity) (subject : Value) (t : Token) (w : World) :
    let ran := ((r.registry.get i).restart subject ss).run h subject t w
    ∃ swept, Sweep h subject (checksFrom 0 ss) t w swept ∧ swept.result = ran.result.2 ∧
      Stepper.acts swept.effects = Stepper.acts ran.effects := by
  intro ran
  let s := (r.registry.get i).restart subject ss
  have hphase : s.phase ≠ .idle := by
    rw [Stepper.restart_phase]
    exact Stepper.phaseAt_ne_idle 0
  obtain ⟨swept, hs, hres, _, _, hacts⟩ :=
    (Stepper.run_runs h subject s t w).sweep hphase (Nat.zero_le _)
  rw [hr.restart_remaining hsource i subject] at hs
  exact ⟨swept, hs, hres, hacts⟩

/-- Every exit of a reconcile is a success or a first failure. -/
theorem Coherent.reconcileWith_ends (hr : Coherent settings r)
    (hsource : settings.source.Steady ss) (hc : c.kept = none ∨ c.kept = some ss) (h : Host World)
    (i : Identity) (t : Token) (w : World) :
    let ran := (Reconciler.mk c r.registry).reconcileWith settings h i t w
    ran.result.2 = .ok .done ∧
        (∃ es, Succeeds settings h c i t w es ∧ Stepper.acts ran.effects = Stepper.acts es) ∨
      ∃ f, ran.result.2 = .ok (.retry f) ∧ Fails settings h c i t w f := by
  intro ran
  cases ht : t.fired (h.now w) with
  | true =>
    refine .inr ⟨_, ?_, .cancelled ht⟩
    simp only [ran, reconcileWith_cancelled ht]
  | false =>
    rcases hg : h.get (instanceLookup settings i) t w with ⟨f | subject, t', w'⟩
    · simp only [ran, reconcileWith_unfetched ht hg]
      cases hf : f.isNotFound with
      | true =>
        refine .inl ⟨by rw [unfetched_gone hf], _, .gone ht hg hf, ?_⟩
        simp
      | false => exact .inr ⟨f, by rw [unfetched_retry hf], .unfetched ht hg hf⟩
    · simp only [ran, reconcileWith_fetched ht hg]
      rcases Catalog.stages_of_steady hsource hc w' with hl | ⟨f, hl, hdecode⟩
      · obtain ⟨swept, hsweep, hres, hacts⟩ := hr.run_sweep hsource h i subject t' w'
        rw [load_of_ok hl]
        simp only [apply_result]
        cases hfault : swept.result with
        | none =>
          refine .inl ⟨?_, _, .passed ht hg hl hsweep hfault, ?_⟩
          · rw [← hres, hfault]
            rfl
          · simp [apply_acts, hacts]
        | some f =>
          refine .inr ⟨f, ?_, .stopped ht hg hl hsweep hfault⟩
          rw [← hres, hfault]
          rfl
      · refine .inr ⟨f, ?_, .unloaded ht hg hl⟩
        rw [load_of_error hl, if_pos hdecode]

/-- After any uses of a reconciler and with any client, a reconcile comes back with an outcome. It has
no fault exactly when the reconcile succeeds, its fault is the first failure met, and the requeue flag
says whether there is one. The catalog may have kept its stages or not, so that one which never keeps
them is covered too. -/
theorem reconcile_outcome (uses : List (Use World)) (hsource : settings.source.Steady ss)
    (hc : c.kept = none ∨ c.kept = some ss) (h : Host World) (i : Identity) (t : Token) (w : World) :
    let r : Reconciler World := ⟨c, (used settings uses).registry⟩
    let ran := r.reconcile settings h i (some t) w
    ∃ o, ran.result.2 = .ok o ∧ (o.requeue = true ↔ o.fault ≠ none) ∧
      (o.fault = none ↔
        ∃ es, Succeeds settings h c i t w es ∧ Stepper.acts ran.effects = Stepper.acts es) ∧
      ∀ f, o.fault = some f ↔ Fails settings h c i t w f := by
  intro r ran
  rcases (coherent_used settings uses).reconcileWith_ends hsource hc h i t w with
    ⟨hres, hsucc⟩ | ⟨f, hres, hfails⟩
  · refine ⟨.done, hres, by simp [Outcome.done], ?_, ?_⟩
    · exact ⟨fun _ => hsucc, fun _ => rfl⟩
    · intro f
      constructor
      · intro hf
        cases hf
      · intro hf
        obtain ⟨es, hs, _⟩ := hsucc
        exact absurd hs hf.not_succeeds
  · refine ⟨.retry f, hres, by simp [Outcome.retry], ?_, ?_⟩
    · constructor
      · intro hf
        cases hf
      · rintro ⟨es, hs, _⟩
        exact absurd hs hfails.not_succeeds
    · intro g
      constructor
      · intro hg
        cases hg
        exact hfails
      · intro hg
        rw [hfails.deterministic hg]
        rfl

/-- A second reconcile, after a first one that loaded a stage of one control that is always ready. -/
theorem reconcile_outcome_again :
    let always : Control Unit := ⟨none, fun _ _ _ t w => ⟨.ok .ready, t, w, []⟩⟩
    let stage : Stage Unit := ⟨"master", "master", .empty, [always], [], []⟩
    let settings : Settings Unit := ⟨.fixed [stage], "NodeFeatureDiscovery", .null⟩
    let h : Host Unit := ⟨fun _ => 0, fun _ t w => (.ok (.map false []), t, w)⟩
    let i : Identity := ⟨"default", "nfd"⟩
    let uses : List (Use Unit) := [.reconcile h i (some .quiet) ()]
    let c := (used settings uses).catalog
    let ran := (Reconciler.mk c (used settings uses).registry).reconcile settings h i (some .quiet) ()
    settings.source.Steady [stage] ∧ (c.kept = none ∨ c.kept = some [stage]) ∧
      ∃ o, ran.result.2 = .ok o ∧ (o.requeue = true ↔ o.fault ≠ none) ∧
        (o.fault = none ↔ ∃ es, Succeeds settings h c i .quiet () es ∧
          Stepper.acts ran.effects = Stepper.acts es) ∧
        ∀ f, o.fault = some f ↔ Fails settings h c i .quiet () f := by
  intro always stage settings h i uses c ran
  have hsource : settings.source.Steady [stage] := StageSource.steady_fixed [stage]
  have hkept := (coherent_used settings uses).kept_steady hsource
  exact ⟨hsource, hkept, reconcile_outcome uses hsource hkept h i .quiet ()⟩

end Reconciler
end StageGate
