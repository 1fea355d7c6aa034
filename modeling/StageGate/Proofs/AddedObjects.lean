import StageGate.Proofs.IrrelevantObjects

/-!
Added objects. A check that is passed is passed just as well with more live objects, and one whose
control raises a fault raises the same: the main result says that adding live objects never sets the
progress of a reconcile back.
-/

namespace StageGate

section
variable {World : Type} {h : Host World} {site : World → Site} {subject : Value}
  {cs : List (Check World)} {c : Check World} {t t' : Token} {w w' : World} {f : Fault}
  {p : Ran World (Option Fault)}

/-- The sweep comes to a check whose control raises the fault. -/
def RaisedAt (h : Host World) (subject : Value) (cs : List (Check World)) (t : Token) (w : World)
    (c : Check World) (f : Fault) : Prop :=
  ∃ before after p, cs = before ++ c :: after ∧ Passes h subject before t w p ∧
    p.token.fired (h.now p.world) = false ∧ (c.run h subject p.token p.world).result = .error f

theorem RaisedAt.stopsAt (hc : RaisedAt h subject cs t w c f) : StopsAt h subject cs t w c f := by
  obtain ⟨before, after, p, rfl, hp, ht, hr⟩ := hc
  exact .of_passes hp (.here (.raised ht hr))

theorem Passes.extends (hh : h.Reads site) (ht : ∀ v, t'.fired (h.now v) = false)
    (hkinds : ∀ c ∈ cs, ∃ k, c.control = Readiness.control World k)
    (hext : (site w').cluster.Extends (site w).cluster) (hp : Passes h subject cs t w p) :
    ∃ p', Passes h subject cs t' w' p' := by
  obtain ⟨hready, -⟩ := hp.comesTo hh hkinds
  exact exists_passes hh ht fun c hc => (hready c hc).extends_ready hext

theorem RaisedAt.extends (hh : h.Reads site) (ht : ∀ v, t'.fired (h.now v) = false)
    (hkinds : ∀ c ∈ cs, ∃ k, c.control = Readiness.control World k)
    (hw : ∀ k, Readiness.LooksUpWritable subject c.stage.bundle k)
    (hext : (site w').cluster.Extends (site w).cluster) (hc : RaisedAt h subject cs t w c f) :
    RaisedAt h subject cs t' w' c f := by
  obtain ⟨before, after, p, rfl, hp, -, hr⟩ := hc
  have hbefore : ∀ d ∈ before, ∃ k, d.control = Readiness.control World k :=
    fun d hd => hkinds d (List.mem_append_left _ hd)
  obtain ⟨p', hp'⟩ := hp.extends hh ht hbefore hext
  obtain ⟨-, -, hsite⟩ := hp.comesTo hh hbefore
  obtain ⟨-, htoken', hsite'⟩ := hp'.comesTo hh hbefore
  obtain ⟨hcomes, -⟩ := Check.comesTo_run hh (hkinds c (by simp)) subject p.token p.world
  rw [hr, hsite] at hcomes
  have hcomes' := hcomes.extends_error hw hext
  rw [← hsite'] at hcomes'
  exact ⟨before, after, p', rfl, hp', by rw [htoken', ht], hcomes'.run hh⟩

end

namespace Reconciler
variable {World : Type} {settings : Settings World} {h : Host World} {site : World → Site}
  {directories : List (String × String)} {r : Reconciler World} {i : Identity} {t t' : Token}
  {w w' w₁ : World} {subject : Value} {ss : List (Stage World)}

/-- A reconcile whose stages cannot be loaded leaves the reconciler as it is. -/
theorem reconcile_unloaded (ht : ∀ v, t.fired (h.now v) = false)
    (hg : h.get (instanceLookup settings i) t w = (.ok subject, t, w₁)) {f : Fault}
    (hl : (r.catalog.stages settings.source w₁).2.result = .error f) :
    (r.reconcile settings h i (some t) w).result =
      (r, if f.isDecode then .ok (.retry f) else .error f) := by
  have hran : r.reconcile settings h i (some t) w = _ := reconcileWith_fetched (ht w) hg
  rw [hran, load_of_error hl]

theorem Swept.get {swept : Ran World (Option Fault)} {s : Stepper World} {ran : Reconciled World}
    (hs : Swept settings h i subject ss t w swept s ran) : ran.result.1.registry.get i = s := by
  rw [Registry.get, hs.registered, Option.getD_some]

/-- A sweep in a cluster that holds more gets as far, and passes all checks if the other does. -/
theorem Swept.extends {swept swept' : Ran World (Option Fault)} {s s' : Stepper World}
    {ran ran' : Reconciled World} (hh : h.Reads site) (ht' : ∀ v, t'.fired (h.now v) = false)
    (hkinds : ∀ c ∈ checksFrom 0 ss, ∃ k, c.control = Readiness.control World k)
    (hext : (site w').cluster.Extends (site w).cluster)
    (hs : Swept settings h i subject ss t w swept s ran)
    (hs' : Swept settings h i subject ss t' w' swept' s' ran') :
    s.cursor ≤ s'.cursor ∧ (ran.result.2 = .ok .done → ran'.result.2 = .ok .done) := by
  rcases hs.sweep.passes_or_stopsAt with hp | ⟨c, f, -, hc⟩
  · obtain ⟨p', hp'⟩ := hp.extends hh ht' hkinds hext
    obtain ⟨-, -, hcursor⟩ := hs.done hp
    obtain ⟨hdone', -, hcursor'⟩ := hs'.done hp'
    exact ⟨Nat.le_of_eq (hcursor.trans hcursor'.symm), fun _ => hdone'⟩
  · obtain ⟨hretry, -, hcursor, -⟩ := hs.retry hc
    refine ⟨?_, fun hdone => by simp [hretry, Outcome.retry, Outcome.done] at hdone⟩
    rw [hcursor]
    obtain ⟨before, after, p, hsplit, hp, -⟩ := hc.exists_split
    have hbefore : ∀ d ∈ before, ∃ k, d.control = Readiness.control World k :=
      fun d hd => hkinds d (hsplit ▸ List.mem_append_left _ hd)
    obtain ⟨p', hp'⟩ := hp.extends hh ht' hbefore hext
    rcases hs'.sweep.passes_or_stopsAt with hall | ⟨c', f', -, hc'⟩
    · rw [(hs'.done hall).2.2]
      have hbound := (checksFrom_pairwise 0 ss).2 c hc.mem
      omega
    · rw [(hs'.retry hc').2.2.1]
      rw [hsplit] at hc'
      exact checksFrom_position_le hsplit (hc'.mem_of_passes hp')

/-- The reconcile comes to a check whose control raises the fault. -/
def Raises (settings : Settings World) (h : Host World) (c : Catalog World) (i : Identity) (t : Token)
    (w : World) (check : Check World) (f : Fault) : Prop :=
  ∃ subject t' w' ss, h.get (instanceLookup settings i) t w = (.ok subject, t', w') ∧
    (c.stages settings.source w').2.result = .ok ss ∧
      RaisedAt h subject (checksFrom 0 ss) t' w' check f

/-- An instance that is found lends its namespace, which is that of the identity, so the look-ups of built
stages can be written. -/
theorem looksUpWritable_of_made [Yaml.Reader] {files : Files.Tree} {cluster : Cluster}
    (hmade : cluster.Made) (hg : cluster.get (instanceLookup settings i) = .ok subject)
    (hbuilt : Stage.AllBuilt files directories ss) {c : Check World} (hc : c ∈ checksFrom 0 ss) (k : Kind) :
    Readiness.LooksUpWritable subject c.stage.bundle k := by
  obtain ⟨key, hkey, hfound⟩ := Cluster.get_eq_ok.mp hg
  obtain ⟨-, -, hns⟩ := Lookup.key?_eq_some.mp hkey
  obtain ⟨hstage, -⟩ := mem_checksFrom hc
  exact Readiness.looksUpWritable_of_keyed (hmade.keyed hfound) hns fun _ hb => hbuilt.textual hstage hb

/-- Puts under keys that the cluster does not hold yet set no reconcile of an instance that is found
back: the stepper gets at least as far, what converged converges, and where a control raised a fault, the
same control raises the same fault and ends the reconcile at the same stage, if the cluster was made by puts
and deletions. -/
theorem added_objects_keep_progress [Yaml.Reader] (site : World → Site) (directories : List (String × String))
    (instanceKind : String) (timeout : Value) (uses : List (Use World)) (i : Identity)
    (objects : List Value) (t t' : Token) (w w' : World) (hh : h.Reads site)
    (ht : ∀ v, t.fired (h.now v) = false) (ht' : ∀ v, t'.fired (h.now v) = false)
    (hfiles : (site w').files = (site w).files)
    (hputs : objects.foldlM Cluster.put (site w).cluster = .ok (site w').cluster)
    (hnew : ∀ o ∈ objects, ∀ key, Cluster.Keyed o key → (site w).cluster.find? key = none) :
    let settings : Settings World :=
      ⟨.ofDirectories (fun w => (site w).files) directories, instanceKind, timeout⟩
    let r := used settings uses
    let small := r.reconcile settings h i (some t) w
    let large := r.reconcile settings h i (some t') w'
    (∃ subject, (site w).cluster.get (instanceLookup settings i) = .ok subject) →
      (small.result.1.registry.get i).cursor ≤ (large.result.1.registry.get i).cursor ∧
      (small.result.2 = .ok .done → large.result.2 = .ok .done) ∧
      ((site w).cluster.Made → ∀ c f, Raises settings h r.catalog i t w c f →
        (small.result.2 = .ok (.retry f) ∧
          (small.result.1.registry.get i).cursor = c.position) ∧
        Raises settings h r.catalog i t' w' c f ∧ large.result.2 = .ok (.retry f) ∧
          (large.result.1.registry.get i).cursor = c.position) := by
  intro settings r small large
  rintro ⟨subject, hg⟩
  have hr : Coherent settings r := coherent_used settings uses
  have hext := Cluster.extends_of_puts hputs hnew
  obtain ⟨w₁, hget, hsite⟩ := hh.get_eq (instanceLookup settings i) t w
  obtain ⟨w₁', hget', hsite'⟩ := hh.get_eq (instanceLookup settings i) t' w'
  rw [hg] at hget
  rw [hext.get hg] at hget'
  have hsource : settings.source = .ofDirectories (fun w => (site w).files) directories := rfl
  have hsame : r.catalog.stages settings.source w₁' = r.catalog.stages settings.source w₁ := by
    rw [hsource]
    apply Catalog.stages_ofDirectories_congr
    rw [hsite', hsite, hfiles]
  cases hl : (r.catalog.stages settings.source w₁).2.result with
  | error f =>
    have hl' := (congrArg (·.2.result) hsame).trans hl
    have hsmall : small.result = _ := reconcile_unloaded ht hget hl
    have hlarge : large.result = _ := reconcile_unloaded ht' hget' hl'
    rw [hsmall, hlarge]
    refine ⟨Nat.le_refl _, id, ?_⟩
    rintro - c g ⟨_, _, _, ss, hget₂, hss, -⟩
    cases hget.symm.trans hget₂
    simp [hl] at hss
  | ok ss =>
    have hl' := (congrArg (·.2.result) hsame).trans hl
    obtain ⟨swept, s, hs⟩ := hr.reconcileWith_swept (ht w) hget hl
    obtain ⟨swept', s', hs'⟩ := hr.reconcileWith_swept (ht' w') hget' hl'
    obtain ⟨v, hbuilt⟩ := hr.exists_source hl
    rw [hsource, StageSource.ofDirectories_eq_ok] at hbuilt
    have hkinds := hbuilt.checks 0
    have hext' : (site w₁').cluster.Extends (site w₁).cluster := by rwa [hsite, hsite']
    obtain ⟨hcursor, hdone⟩ := hs.extends hh ht' hkinds hext' hs'
    have hsmall : small.result.1.registry.get i = s := hs.get
    have hlarge : large.result.1.registry.get i = s' := hs'.get
    rw [hsmall, hlarge]
    refine ⟨hcursor, hdone, ?_⟩
    rintro hmade c f ⟨_, _, _, ss₂, hget₂, hss₂, hraised⟩
    cases hget.symm.trans hget₂
    cases hl.symm.trans hss₂
    have hwritable := looksUpWritable_of_made hmade hg hbuilt hraised.stopsAt.mem
    have hraised' := hraised.extends hh ht' hkinds hwritable hext'
    obtain ⟨hretry, -, hposition, -⟩ := hs.retry hraised.stopsAt
    obtain ⟨hretry', -, hposition', -⟩ := hs'.retry hraised'.stopsAt
    exact ⟨⟨hretry, hposition⟩, ⟨_, _, _, _, hget', hl', hraised'⟩, hretry', hposition'⟩

/-- The second account is put at a site that has only the instance. -/
theorem account_added :
    let cluster := nfdCluster.insert (nfdKey "ServiceAccount" "b") (nfdObject "ServiceAccount" "b")
    let cursor (c : Cluster) :=
      ((nfdReconciled c).result.1.registry.get ⟨"nfd", "nfd-instance"⟩).cursor
    [nfdObject "ServiceAccount" "b"].foldlM Cluster.put nfdCluster = .ok cluster ∧
      nfdCluster.find? (nfdKey "ServiceAccount" "b") = none ∧ cursor nfdCluster ≤ cursor cluster ∧
        ((nfdReconciled nfdCluster).result.2 = .ok .done →
          (nfdReconciled cluster).result.2 = .ok .done) := by
  intro cluster cursor
  have hkeyed : Cluster.Keyed (nfdObject "ServiceAccount" "b") _ := nfdObject_keyed _ (by decide)
  have hputs : [nfdObject "ServiceAccount" "b"].foldlM Cluster.put nfdCluster = .ok cluster :=
    Cluster.puts_cons.mpr ⟨_, hkeyed, rfl⟩
  have habsent : nfdCluster.find? (nfdKey "ServiceAccount" "b") = none := by decide
  have hnew : ∀ o ∈ [nfdObject "ServiceAccount" "b"], ∀ key, Cluster.Keyed o key →
      nfdCluster.find? key = none := by
    intro o ho key hkey
    cases List.mem_singleton.mp ho
    rwa [hkey.unique hkeyed]
  have hfound : nfdCluster.get (instanceLookup nfdSettings ⟨"nfd", "nfd-instance"⟩) =
      .ok (nfdObject "NodeFeatureDiscovery" "nfd-instance") := rfl
  obtain ⟨hcursor, hdone, -⟩ := added_objects_keep_progress id [("accounts", "d")]
    "NodeFeatureDiscovery" .null [] ⟨"nfd", "nfd-instance"⟩ _ .quiet .quiet nfdSite
    { nfdSite with cluster } (Site.host_reads 0) (fun _ => rfl) (fun _ => rfl) rfl hputs hnew
    ⟨_, hfound⟩
  exact ⟨hputs, habsent, hcursor, hdone⟩

end Reconciler
end StageGate
