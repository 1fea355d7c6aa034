import StageGate.Proofs.ReportedOutcome

/-!
When a reconcile command shows that an instance has converged. It does so where all checks of all stages
were made and came back ready, and where the instance is gone; then no check is made at all.
-/

namespace StageGate.CommandLine

variable {World : Type}

/-- The text of the panel of an instance that has converged. -/
def convergedText : String :=
  Markup.styled "bold green" "Converged"

/-- A panel with that text is printed. -/
def ShowsConverged (printed : List Printed) : Prop :=
  ∃ p, .panel p ∈ printed ∧ p.body = convergedText

variable {s : Surroundings World} {files : Files.Tree} {o : Options} {c : Config} {i : Identity}
  {t : Token} {w : World} {outcome : Outcome}

/-! Texts in another style are told apart by their first characters, whatever fault they speak of. -/

theorem retry_body_ne (f : Fault) : (Outcome.retry f).body ≠ convergedText := by
  intro heq
  have hchars := congrArg String.toList heq
  simp [Outcome.body, Outcome.heading, Outcome.retry, convergedText, Markup.styled] at hchars

theorem faultPanel_body_ne (f : Fault) : (faultPanel f).body ≠ convergedText := by
  intro heq
  have hchars := congrArg String.toList heq
  simp [faultPanel, convergedText, Markup.styled] at hchars

/-- A command that a fault stops does not show that anything has converged. -/
theorem not_showsConverged_stopped (f : Fault) (events : List Event) :
    ¬ ShowsConverged (stopped f events).printed := by
  rintro ⟨p, hp, hbody⟩
  unfold stopped at hp
  split at hp
  · simp only [List.mem_singleton, Printed.panel.injEq] at hp
    subst hp
    exact faultPanel_body_ne f hbody
  · simp at hp

/-- The only panel of a report is that of the outcome. -/
theorem showsConverged_report_iff (left : Option (Stepper World)) :
    ShowsConverged (outcome.report i left) ↔ outcome.body = convergedText := by
  have hpanel (p : Panel) : .panel p ∈ outcome.report i left ↔ p = outcome.panel i := by
    cases left with
    | none => simp [Outcome.report]
    | some st =>
      simp only [Outcome.report]
      split <;> simp
  simp [ShowsConverged, hpanel, Outcome.panel]

/-! Where the instance is gone, and where it is found and all checks are ready, nothing is left to do. -/

section
variable [Yaml.Reader]

theorem FindsGone.done (hgone : FindsGone s c i t w) :
    (reconciled s c i t w).result.2 = .ok .done := by
  obtain ⟨ht, f, t', w', hg, hf⟩ := hgone
  rw [reconciled, Reconciler.reconcileWith_unfetched ht hg, Reconciler.unfetched_gone hf]

theorem AllReady.done (hready : AllReady s c i t w) :
    (reconciled s c i t w).result.2 = .ok .done := by
  obtain ⟨subject, t', w', ss, hr, hall⟩ := hready
  obtain ⟨swept, st, hswept⟩ :=
    (Reconciler.coherent_new (s.settings c)).reconcileWith_swept hr.unfired hr.fetched
      ((Reconciler.new_stages _ w').trans hr.loaded)
  rcases hswept.sweep.passes_or_stopsAt with hp | ⟨check, f, -, hc⟩
  · exact (hswept.done hp).1
  · exact absurd (hall check hc.mem) (hc.not_madeReady (checksFrom_nodup 0 ss))

theorem Concludes.of_done {left : Option (Stepper World)} (hc : Concludes s c i t w .done left) :
    FindsGone s c i t w ∨ AllReady s c i t w := by
  cases hc with
  | gone hgone => exact .inl hgone
  | converged hr hp => exact .inr ⟨_, _, _, _, hr, hp.madeReady⟩

/-- A command shows that an instance has converged where all checks were made and ready, and where there
is no such instance. -/
theorem showsConverged_iff (s : Surroundings World) (files : Files.Tree) (o : Options) :
    ShowsConverged (reconcile s files o).printed ↔
      ∃ c i t w, Prepared s files o c i t w ∧ (FindsGone s c i t w ∨ AllReady s c i t w) := by
  have hshown {c i t w outcome} (hp : Prepared s files o c i t w)
      (hran : (reconciled s c i t w).result.2 = .ok outcome) :
      ShowsConverged (reconcile s files o).printed ↔ outcome.body = convergedText := by
    rw [(hp.reported hran).2, showsConverged_report_iff]
  constructor
  · intro hconverged
    obtain ⟨c, i, t, w, outcome, hp, hran⟩ | ⟨f, events, hstopped⟩ := returns_or_stopped s files o
    · have hbody := (hshown hp hran).mp hconverged
      have hconcludes := reconciled_concludes hran
      obtain rfl | ⟨f, rfl⟩ := hconcludes.done_or_retry
      · exact ⟨c, i, t, w, hp, hconcludes.of_done⟩
      · exact absurd hbody (retry_body_ne f)
    · rw [hstopped] at hconverged
      exact absurd hconverged (not_showsConverged_stopped f events)
  · rintro ⟨c, i, t, w, hp, hgone | hready⟩
    · exact (hshown hp hgone.done).mpr rfl
    · exact (hshown hp hready.done).mpr rfl

end

/-! An instance that is not in the cluster, before stages that have checks. -/

def goneOptions : Options :=
  { stagedOptions with identity := some "nfd/gone" }

/-- The instance is shown as converged though there are checks, none of which is made. -/
theorem gone_shows_converged :
    ∃ w ss, Prepared (.still 0) stagedFiles goneOptions stagedConfig ⟨"nfd", "gone"⟩ .quiet w ∧
      Stage.AllBuilt stagedFiles stagedConfig.stageDirs (ss : List (Stage Site)) ∧
      checksFrom 0 ss ≠ [] ∧
      ShowsConverged (reconcile (.still 0) stagedFiles goneOptions).printed ∧
      ¬ AllReady (.still 0) stagedConfig ⟨"nfd", "gone"⟩ .quiet w := by
  have hmissing : ((Cluster.ofSnapshot stagedFiles "c.yaml").result.toOption.any fun cluster =>
      (cluster.get ⟨.str "NodeFeatureDiscovery", .str "gone", .str "nfd"⟩).toOption.isNone) = true := by
    decide +kernel
  obtain ⟨cluster, hcluster, hnone⟩ := Option.any_eq_true .. |>.mp hmissing
  have hloads : ((StageSource.ofDirectories Site.files stagedConfig.stageDirs
      ⟨.empty, stagedFiles⟩).result.toOption.any fun ss => !(checksFrom 0 ss).isEmpty) = true := by
    decide +kernel
  obtain ⟨ss, hss, hchecks⟩ := Option.any_eq_true .. |>.mp hloads
  rw [toOption_eq_some, StageSource.ofDirectories_eq_ok] at hss
  have hprinted : (reconcile (.still 0) stagedFiles goneOptions).printed =
      [.panel ⟨convergedText, some (Markup.styled "bold white" "nfd/gone"), "green", false⟩] := by
    decide +kernel
  refine ⟨⟨cluster, stagedFiles⟩, ss, ⟨rfl, rfl, ⟨cluster, toOption_eq_some.mp hcluster, rfl⟩, rfl⟩,
    hss, ?_, ?_, ?_⟩
  · simpa using hchecks
  · exact ⟨_, hprinted ▸ List.mem_singleton_self _, rfl⟩
  · rintro ⟨subject, t', w', _, hr, -⟩
    have hget : cluster.get ⟨.str "NodeFeatureDiscovery", .str "gone", .str "nfd"⟩ = .ok subject :=
      congrArg Prod.fst hr.fetched
    simp [hget, Except.toOption] at hnone

end StageGate.CommandLine
