import StageGate.CommandLine.Run
import StageGate.Proofs.ReadyChecks
import StageGate.Proofs.SiteChecks
import StageGate.Proofs.StageLoading

/-!
What the reconcile of a command comes to. A fault of loading is always that of the catalog, and the stepper
that is left has passed just the stages whose checks were all made and ready.
-/

namespace StageGate

theorem Lookup.absence_isDecode (l : Lookup) : l.absence.isDecode = false := by
  cases hw : l.isWritable <;> simp [absence, hw, Fault.isDecode]

theorem Cluster.get_failsOnly (c : Cluster) (l : Lookup) :
    FailsOnly (fun f => f.isDecode = false) (c.get l) := by
  cases hk : l.key? with
  | none =>
    rw [get_of_not_key hk]
    exact .error rfl
  | some key =>
    rw [get_of_key hk]
    cases c.find? key with
    | none => exact .error l.absence_isDecode
    | some object => exact .ok object

namespace Readiness
variable {World : Type} {cluster : Cluster} {subject : Value} {b : Bundle} {k : Kind}

theorem judgeFetched_failsOnly (r : Resource) {fetched : Except Fault Value}
    (hf : FailsOnly (fun f => f.isDecode = false) fetched) :
    FailsOnly (fun f => f.isDecode = false) (judgeFetched k r fetched).1 := by
  unfold judgeFetched
  split
  · split
    · exact .ok Answer.notReady
    · exact .error rfl
  · rename_i f _
    exact .error (hf f rfl)
  · split
    · exact .error rfl
    · exact .ok _

/-- No control of a kind comes to a fault of loading. -/
theorem checkIn_failsOnly :
    FailsOnly (fun f => f.isDecode = false) (checkIn cluster subject b k).1 := by
  unfold checkIn
  split
  · exact .ok Answer.notReady
  · split
    · exact .error rfl
    · exact judgeFetched_failsOnly _ (cluster.get_failsOnly _)

end Readiness

theorem Check.Fails.isDecode {World : Type} {h : Host World} {site : World → Site} {subject : Value}
    {c : Check World} {t : Token} {w : World} {f : Fault} (hh : h.Reads site)
    (hc : ∃ k, c.control = Readiness.control World k) (hf : c.Fails h subject t w f) :
    f.isDecode = false := by
  cases hf with
  | cancelled => rfl
  | raised _ hr =>
    obtain ⟨⟨k, -, hk⟩, -⟩ := c.comesTo_run hh hc subject t w
    exact Readiness.checkIn_failsOnly f (hk.trans hr)
  | refused => rfl

namespace Outcome

@[simp]
theorem fault_done : Outcome.done.fault = none := rfl

@[simp]
theorem fault_retry (f : Fault) : (Outcome.retry f).fault = some f := rfl

end Outcome

/-- A reconciler that is new loads the stages from their source. -/
theorem Reconciler.new_stages {World : Type} (source : StageSource World) (w : World) :
    ((new : Reconciler World).catalog.stages source w).2.result = (source w).result :=
  Catalog.stages_of_not_kept rfl

namespace CommandLine
open Reconciler (instanceLookup)

variable {World : Type}

/-- What a reconcile starts from, as the options ask for it. -/
structure Prepared [Yaml.Reader] (s : Surroundings World) (files : Files.Tree) (o : Options) (c : Config)
    (i : Identity) (t : Token) (w : World) : Prop where
  config : configFor files o = .ok c
  identity : identityOf (o.identity.getD "") = .ok i
  snapshot : ∃ cluster, (Cluster.ofSnapshot files (o.cluster.getD "")).result = .ok cluster ∧
    w = s.enter ⟨cluster, files⟩
  token : Token.ofTimeout (s.host.now w) c.timeout = .ok t

section
variable (s : Surroundings World) (c : Config) (i : Identity) (t : Token) (w : World)

variable [Yaml.Reader]

/-- The only reconcile of a command. -/
def reconciled : Reconciler.Reconciled World :=
  Reconciler.new.reconcileWith (s.settings c) s.host i t w

/-- The reconcile reaches the stepper: it fetches the instance and loads the stages. -/
structure Reached (subject : Value) (t' : Token) (w' : World) (ss : List (Stage World)) : Prop where
  unfired : t.fired (s.host.now w) = false
  fetched : s.host.get (instanceLookup (s.settings c) i) t w = (.ok subject, t', w')
  loaded : ((s.settings c).source w').result = .ok ss

/-- The reconcile fetches the instance, and the stages cannot be loaded for a fault of a manifest. -/
def LoadRefused : Prop :=
  t.fired (s.host.now w) = false ∧ ∃ subject t' w' f,
    s.host.get (instanceLookup (s.settings c) i) t w = (.ok subject, t', w') ∧
      ((s.settings c).source w').result = .error f ∧ f.isDecode = true

/-- The reconcile finds no instance. -/
def FindsGone : Prop :=
  t.fired (s.host.now w) = false ∧ ∃ f t' w',
    s.host.get (instanceLookup (s.settings c) i) t w = (.error f, t', w') ∧ f.isNotFound = true

/-- All checks of all stages are made, and they come back ready. -/
def AllReady : Prop :=
  ∃ subject t' w' ss, Reached s c i t w subject t' w' ss ∧
    ∀ check ∈ checksFrom 0 ss, MadeReady s.host subject (checksFrom 0 ss) t' w' check

/-- The ways in which the reconcile comes to an outcome, and the stepper that it leaves. -/
inductive Concludes : Outcome → Option (Stepper World) → Prop where
  | cancelled (ht : t.fired (s.host.now w) = true) :
      Concludes (.retry (.cancelled (.before "instance fetch"))) none
  | gone (hgone : FindsGone s c i t w) : Concludes .done none
  | unfetched {f t' w'} (ht : t.fired (s.host.now w) = false)
      (hg : s.host.get (instanceLookup (s.settings c) i) t w = (.error f, t', w'))
      (hf : f.isNotFound = false) (hdecode : f.isDecode = false) : Concludes (.retry f) none
  | refused {f} (hrefused : LoadRefused s c i t w) (hdecode : f.isDecode = true) :
      Concludes (.retry f) none
  | converged {subject t' w' ss p st} (hreached : Reached s c i t w subject t' w' ss)
      (hp : Passes s.host subject (checksFrom 0 ss) t' w' p) (hstages : st.stages = ss)
      (hcursor : st.cursor = ss.length) : Concludes .done (some st)
  | blocked {subject t' w' ss check f st} (hreached : Reached s c i t w subject t' w' ss)
      (hc : StopsAt s.host subject (checksFrom 0 ss) t' w' check f) (hdecode : f.isDecode = false)
      (hstages : st.stages = ss) (hcursor : st.cursor = check.position) :
      Concludes (.retry f) (some st)

end

variable {s : Surroundings World} {files : Files.Tree} {o : Options} {c : Config} {i : Identity}
  {t t' : Token} {w w' : World} {subject : Value} {ss : List (Stage World)} {outcome : Outcome}

section
variable [Yaml.Reader]

theorem Reached.allBuilt (hr : Reached s c i t w subject t' w' ss) :
    Stage.AllBuilt (s.site w).files c.stageDirs ss := by
  have hsite := s.reads.site (instanceLookup (s.settings c) i) t w
  rw [hr.fetched] at hsite
  have hloaded : (StageSource.ofDirectories (fun w => (s.site w).files) c.stageDirs w').result = .ok ss :=
    hr.loaded
  rwa [StageSource.ofDirectories_eq_ok, hsite] at hloaded

theorem Reached.concludes (hr : Reached s c i t w subject t' w' ss)
    (hran : (reconciled s c i t w).result.2 = .ok outcome) :
    Concludes s c i t w outcome ((reconciled s c i t w).result.1.registry.find? i) := by
  have hl := (Reconciler.new_stages _ w').trans hr.loaded
  obtain ⟨swept, st, hswept⟩ :=
    (Reconciler.coherent_new (s.settings c)).reconcileWith_swept hr.unfired hr.fetched hl
  rw [reconciled, hswept.registered]
  rcases hswept.sweep.passes_or_stopsAt with hp | ⟨check, f, -, hc⟩
  · obtain ⟨hdone, -, hcursor⟩ := hswept.done hp
    cases hdone.symm.trans hran
    exact .converged hr hp hswept.stages hcursor
  · obtain ⟨hretry, -, hcursor, -⟩ := hswept.retry hc
    cases hretry.symm.trans hran
    -- the fault of a check is never one of loading, so it cannot be taken for that of the catalog
    obtain ⟨_, _, _, _, _, hfails⟩ := hc.exists_split
    have hdecode := hfails.isDecode s.reads (hr.allBuilt.checks 0 check hc.mem)
    exact .blocked hr hc hdecode hswept.stages hcursor

/-- A reconcile that cannot fetch the instance leaves no stepper of it. -/
theorem concludes_of_unfetched {f : Fault} (ht : t.fired (s.host.now w) = false)
    (hg : s.host.get (instanceLookup (s.settings c) i) t w = (.error f, t', w'))
    (hran : (reconciled s c i t w).result.2 = .ok outcome) :
    Concludes s c i t w outcome ((reconciled s c i t w).result.1.registry.find? i) := by
  have hget := s.reads.result (instanceLookup (s.settings c) i) t w
  rw [hg] at hget
  have hdecode := Cluster.get_failsOnly _ _ f hget.symm
  rw [reconciled, Reconciler.reconcileWith_unfetched ht hg] at hran ⊢
  cases hf : f.isNotFound with
  | true =>
    simp only [Reconciler.unfetched_gone hf, Except.ok.injEq] at hran
    have hforgot := Registry.find?_forget_self (Reconciler.new : Reconciler World).registry i
    rw [← hran]
    simpa [Reconciler.unfetched, hf, hforgot] using Concludes.gone ⟨ht, f, t', w', hg, hf⟩
  | false =>
    simp only [Reconciler.unfetched_retry hf, Except.ok.injEq] at hran
    have hkept : (Reconciler.unfetched Reconciler.new i f).1 = (Reconciler.new : Reconciler World) := by
      unfold Reconciler.unfetched
      cases f.isCancelled <;> simp [hf]
    rw [← hran]
    rw [hkept]
    exact .unfetched ht hg hf hdecode

theorem concludes_of_unloaded {f : Fault} (ht : t.fired (s.host.now w) = false)
    (hg : s.host.get (instanceLookup (s.settings c) i) t w = (.ok subject, t', w'))
    (hl : ((s.settings c).source w').result = .error f)
    (hran : (reconciled s c i t w).result.2 = .ok outcome) :
    Concludes s c i t w outcome ((reconciled s c i t w).result.1.registry.find? i) := by
  have hl' := (Reconciler.new_stages _ w').trans hl
  rw [reconciled, Reconciler.reconcileWith_fetched ht hg] at hran ⊢
  simp only [Reconciler.load_of_error hl'] at hran ⊢
  cases hf : f.isDecode with
  | true =>
    simp only [hf, if_true, Except.ok.injEq] at hran
    rw [← hran]
    exact .refused ⟨ht, subject, t', w', f, hg, hl, hf⟩ hf
  | false => simp [hf] at hran

theorem reconciled_concludes (hran : (reconciled s c i t w).result.2 = .ok outcome) :
    Concludes s c i t w outcome ((reconciled s c i t w).result.1.registry.find? i) := by
  cases ht : t.fired (s.host.now w) with
  | true =>
    rw [reconciled, Reconciler.reconcileWith_cancelled ht] at hran ⊢
    cases hran
    exact .cancelled ht
  | false =>
    rcases hg : s.host.get (instanceLookup (s.settings c) i) t w with ⟨f | subject, t', w'⟩
    · exact concludes_of_unfetched ht hg hran
    · cases hl : ((s.settings c).source w').result with
      | error f => exact concludes_of_unloaded ht hg hl hran
      | ok ss => exact Reached.concludes ⟨ht, hg, hl⟩ hran

/-! How the conclusion of a reconcile is read: from its fault alone, and from the stepper it leaves. -/

theorem LoadRefused.unreached (hl : LoadRefused s c i t w) : ¬ Reached s c i t w subject t' w' ss := by
  obtain ⟨-, _, _, _, f, hg, hf, -⟩ := hl
  intro hr
  cases hg.symm.trans hr.fetched
  exact nomatch hf.symm.trans hr.loaded

end

namespace Concludes
variable {left : Option (Stepper World)}

variable [Yaml.Reader]

theorem done_or_retry (hc : Concludes s c i t w outcome left) :
    outcome = .done ∨ ∃ f, outcome = .retry f := by
  cases hc with
  | gone | converged => exact .inl rfl
  | cancelled | unfetched | refused | blocked => exact .inr ⟨_, rfl⟩

end Concludes

/-! What a command makes of it. -/

variable [Yaml.Reader]

theorem Prepared.reconcile_eq (hp : Prepared s files o c i t w) :
    ∃ before, reconcile s files o = reconcileIn s c i t w before := by
  obtain ⟨hconfig, hidentity, ⟨cluster, hcluster, rfl⟩, htoken⟩ := hp
  refine ⟨(Cluster.ofSnapshot files (o.cluster.getD "")).events, ?_⟩
  simp [reconcile, hconfig, hidentity, hcluster, htoken, bind, Except.bind, pure, Except.pure]

theorem Prepared.reported (hp : Prepared s files o c i t w)
    (hran : (reconciled s c i t w).result.2 = .ok outcome) :
    (reconcile s files o).status = .ok (statusOf outcome) ∧
      (reconcile s files o).printed =
        outcome.report i ((reconciled s c i t w).result.1.registry.find? i) := by
  have hran' : (Reconciler.new.reconcile (s.settings c) s.host i (some t) w).result =
      ((reconciled s c i t w).result.1, .ok outcome) := Prod.ext rfl hran
  obtain ⟨before, heq⟩ := hp.reconcile_eq
  simp only [heq, reconcileIn, hran', and_self]

theorem Prepared.stopped (hp : Prepared s files o c i t w) {f : Fault}
    (hran : (reconciled s c i t w).result.2 = .error f) :
    ∃ events, reconcile s files o = stopped f events := by
  have hran' : (Reconciler.new.reconcile (s.settings c) s.host i (some t) w).result =
      ((reconciled s c i t w).result.1, .error f) := Prod.ext rfl hran
  obtain ⟨before, heq⟩ := hp.reconcile_eq
  simp only [heq, reconcileIn, hran', exists_apply_eq_apply']

theorem prepared_or_stopped (s : Surroundings World) (files : Files.Tree) (o : Options) :
    (∃ c i t w, Prepared s files o c i t w) ∨ ∃ f events, reconcile s files o = stopped f events := by
  unfold reconcile
  dsimp only
  split
  · exact .inr ⟨_, _, rfl⟩
  · rename_i c i hprepared
    obtain ⟨c', hconfig, hrest⟩ := bind_eq_ok.mp hprepared
    obtain ⟨i', hidentity, heq⟩ := bind_eq_ok.mp hrest
    cases heq
    split
    · exact .inr ⟨_, _, rfl⟩
    · rename_i cluster hcluster
      split
      · exact .inr ⟨_, _, rfl⟩
      · rename_i t htoken
        exact .inl ⟨c, i, t, _, hconfig, hidentity, ⟨cluster, hcluster, rfl⟩, htoken⟩

/-- A command whose reconcile does not return is stopped by a fault. -/
theorem returns_or_stopped (s : Surroundings World) (files : Files.Tree) (o : Options) :
    (∃ c i t w outcome, Prepared s files o c i t w ∧ (reconciled s c i t w).result.2 = .ok outcome) ∨
      ∃ f events, reconcile s files o = stopped f events := by
  obtain ⟨c, i, t, w, hp⟩ | hstopped := prepared_or_stopped s files o
  · cases hran : (reconciled s c i t w).result.2 with
    | ok outcome => exact .inl ⟨c, i, t, w, outcome, hp, hran⟩
    | error f =>
      obtain ⟨events, hstopped⟩ := hp.stopped hran
      exact .inr ⟨f, events, hstopped⟩
  · exact .inr hstopped

end CommandLine
end StageGate
