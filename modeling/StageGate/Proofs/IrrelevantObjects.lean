import StageGate.Proofs.ConvergenceSoundness
import StageGate.Proofs.RelatedRuns
import StageGate.Proofs.SiteChecks
import StageGate.Proofs.StageLoading

/-!
Irrelevant objects. A reconcile looks things up under the key of the instance and under those of the
resources in the bundles of the stages, and under no others: the main result says that live objects
under other keys change nothing of what it does.
-/

namespace StageGate

/-- The token is as it was, and the two worlds are where the two runs began. -/
def AtSites {World : Type} (site : World → Site) (t : Token) (w w' : World) (t' : Token)
    (v v' : World) : Prop :=
  t' = t ∧ site v = site w ∧ site v' = site w'

theorem Readiness.control_matches {World : Type} {h : Host World} {site : World → Site} {t : Token}
    {w w' : World} {subject : Value} {b : Bundle} {k : Kind} (hh : h.Reads site)
    (hcheck : checkIn (site w).cluster subject b k = checkIn (site w').cluster subject b k) :
    (control World k).Matches (AtSites site t w w') h h subject b := by
  rintro t' v v' ⟨ht', hv, hv'⟩
  obtain ⟨hresult, heffects, htoken, hsite⟩ := control_checkIn hh subject b k t' v
  obtain ⟨hresult', heffects', htoken', hsite'⟩ := control_checkIn hh subject b k t' v'
  constructor
  · rw [hresult, hresult', hv, hv', hcheck]
  · rw [htoken, htoken']
  · rw [heffects, heffects', hv, hv', hcheck]
  · exact ⟨htoken.trans ht', hsite.trans hv, hsite'.trans hv'⟩

namespace Reconciler

/-- The keys under which a reconcile may look things up. -/
inductive LooksUnder {World : Type} (settings : Settings World) (r : Reconciler World) (i : Identity)
    (w : World) : ObjectKey → Prop where
  | instance {key} (hk : (instanceLookup settings i).key? = some key) : LooksUnder settings r i w key
  | resource {ss stage k resource key} (hl : (r.catalog.stages settings.source w).2.result = .ok ss)
      (hs : stage ∈ ss) (hb : stage.bundle.get k = some resource)
      (hk : (resource.placeFor i).key? = some key) : LooksUnder settings r i w key

variable {World : Type} {settings : Settings World} {h : Host World} {site : World → Site}
  {directories : List (String × String)} {r : Reconciler World} {i : Identity} {t : Token}
  {w w' : World} {subject : Value} {ss : List (Stage World)} {stage : Stage World}

/-- A control of a stage looks under no other keys, since the instance that was found has the namespace
of the identity. -/
theorem checkIn_irrelevant (hmade : (site w).cluster.Made)
    (hsame : ∀ key, LooksUnder settings r i w key →
      (site w').cluster.find? key = (site w).cluster.find? key)
    (hg : (site w).cluster.get (instanceLookup settings i) = .ok subject)
    (hl : (r.catalog.stages settings.source w).2.result = .ok ss) (hs : stage ∈ ss) (k : Kind) :
    Readiness.checkIn (site w).cluster subject stage.bundle k =
      Readiness.checkIn (site w').cluster subject stage.bundle k := by
  obtain ⟨instanceKey, hk, hfound⟩ := Cluster.get_eq_ok.mp hg
  obtain ⟨-, -, hns⟩ := Lookup.key?_eq_some.mp hk
  refine Readiness.checkIn_congr fun resource l hb hplaced => Cluster.get_congr fun key hk => ?_
  obtain ⟨l', hplaced', hplace⟩ := Readiness.lookupFor_of_keyed (hmade.keyed hfound) hns resource
  cases hplaced.symm.trans hplaced'
  exact (hsame key (.resource hl hs hb (hplace ▸ hk))).symm

/-- At sites with the same files, and the same objects under these keys, a reconcile does the same. -/
theorem Coherent.reconcileWith_irrelevant [Yaml.Reader] (hr : Coherent settings r)
    (hsource : settings.source = .ofDirectories (fun w => (site w).files) directories)
    (hh : h.Reads site) (ht : ∀ v, t.fired (h.now v) = false) (hmade : (site w).cluster.Made)
    (hfiles : (site w').files = (site w).files)
    (hsame : ∀ key, LooksUnder settings r i w key →
      (site w').cluster.find? key = (site w).cluster.find? key) :
    (r.reconcileWith settings h i t w).Match (AtSites site t w w')
      (r.reconcileWith settings h i t w') := by
  let l := instanceLookup settings i
  have hinstance : (site w').cluster.get l = (site w).cluster.get l :=
    Cluster.get_congr fun key hk => hsame key (.instance hk)
  -- Wherever the runs stand, the files are those of their beginning, and so are the stages.
  have hstages (v v' : World) (hv : (site v).files = (site v').files) :
      r.catalog.stages settings.source v = r.catalog.stages settings.source v' := by
    rw [hsource]
    exact Catalog.stages_ofDirectories_congr hv
  have hfetched (v : World) : site (h.fetch l t v).world = site v := hh.site l t v
  refine hr.reconcileWith_match ?fires ?fetch ?loaded ?controls ⟨rfl, rfl, rfl⟩
  case fires =>
    rintro _ v v' ⟨rfl, -, -⟩
    rw [ht v, ht v']
  case fetch =>
    refine ⟨?_, ?_, rfl, hh.token l t w, hfetched w, hfetched w'⟩
    · simp only [Host.fetch, hh.result]
      exact hinstance.symm
    · simp only [Host.fetch, hh.token]
  case loaded =>
    apply hstages
    rw [hfetched, hfetched, hfiles]
  case controls =>
    intro subject ss hsubject hss stage hstage c hc
    simp only [Host.fetch, hh.result] at hsubject
    rw [hstages _ w (congrArg Site.files (hfetched w))] at hss
    obtain ⟨v, hbuilt⟩ := hr.exists_source hss
    rw [hsource, StageSource.ofDirectories_eq_ok] at hbuilt
    obtain ⟨k, rfl⟩ := hbuilt.controls hstage c hc
    exact Readiness.control_matches hh (checkIn_irrelevant hmade hsame hsubject hss hstage k)

/-- Of two clusters that agree under the keys of the instance and of the resources in the bundles, a
reconcile with a token that does not fire makes the same: the same outcome and the same steppers, and
the same effects, so the look-ups in their order. In particular it makes no difference to put an object
under another key, or to delete one there. -/
theorem irrelevant_objects_unseen [Yaml.Reader] (site : World → Site) (directories : List (String × String))
    (instanceKind : String) (timeout : Value) (uses : List (Use World)) (i : Identity)
    (hh : h.Reads site) (ht : ∀ v, t.fired (h.now v) = false) (hmade : (site w).cluster.Made) :
    let settings : Settings World :=
      ⟨.ofDirectories (fun w => (site w).files) directories, instanceKind, timeout⟩
    let r := used settings uses
    let ran (v : World) := r.reconcile settings h i (some t) v
    ∀ w', (site w').files = (site w).files →
      ((∀ key, LooksUnder settings r i w key →
          (site w').cluster.find? key = (site w).cluster.find? key) →
        (ran w').result = (ran w).result ∧ (ran w').token = (ran w).token ∧
          (ran w').effects = (ran w).effects) ∧
      ∀ key, ¬ LooksUnder settings r i w key →
        (∃ object, Cluster.Keyed object key ∧ (site w).cluster.put object = .ok (site w').cluster) ∨
          (∃ l, l.key? = some key ∧ (site w).cluster.delete l = .ok (site w').cluster) →
        (ran w').result = (ran w).result ∧ (ran w').token = (ran w).token ∧
          (ran w').effects = (ran w).effects := by
  intro settings r ran w' hfiles
  have hr : Coherent settings r := coherent_used settings uses
  have hagree (hsame : ∀ key, LooksUnder settings r i w key →
      (site w').cluster.find? key = (site w).cluster.find? key) :
      (ran w').result = (ran w).result ∧ (ran w').token = (ran w).token ∧
        (ran w').effects = (ran w).effects := by
    have hmatch := hr.reconcileWith_irrelevant rfl hh ht hmade hfiles hsame
    exact ⟨hmatch.result.symm, hmatch.token.symm, hmatch.effects.symm⟩
  refine ⟨hagree, fun key hkey hchange => hagree fun other hother => ?_⟩
  have hne : other ≠ key := fun heq => hkey (heq ▸ hother)
  rcases hchange with ⟨object, hkeyed, hput⟩ | ⟨l, hl, hdelete⟩
  · obtain ⟨key', hkeyed', hcluster⟩ := Cluster.put_eq_ok.mp hput
    rw [hcluster, hkeyed'.unique hkeyed, Cluster.find?_insert_other _ hne]
  · rw [← Except.ok.inj ((Cluster.delete_of_key _ hl).symm.trans hdelete),
      Cluster.find?_erase_other _ hne]

/-! A site with the instance and the files of two accounts, and a secret with the name of an account. -/

/-- An object in the namespace `nfd`. -/
def nfdObject (kind name : String) : Value :=
  .map false [(.str "kind", .str kind), (.str "metadata", .map false [
    (.str "name", .str name), (.str "namespace", .str "nfd")])]

def nfdKey (kind name : String) : ObjectKey :=
  ⟨[.str kind], some [.str "nfd"], [.str name]⟩

def nfdCluster : Cluster :=
  Cluster.empty.insert (nfdKey "NodeFeatureDiscovery" "nfd-instance")
    (nfdObject "NodeFeatureDiscovery" "nfd-instance")

def nfdSite : Site :=
  ⟨nfdCluster, Stepper.accountFiles⟩

def nfdSettings : Settings Site :=
  ⟨.ofDirectories Site.files [("accounts", "d")], "NodeFeatureDiscovery", .null⟩

/-- The reconcile of the instance at a site of the cluster. -/
def nfdReconciled (cluster : Cluster) : Reconciled Site :=
  (used nfdSettings []).reconcile nfdSettings (Site.host 0) ⟨"nfd", "nfd-instance"⟩ (some .quiet)
    { nfdSite with cluster }

theorem nfdObject_keyed (kind : String) {name : String} (hname : name ≠ "") :
    Cluster.Keyed (nfdObject kind name) (nfdKey kind name) := by
  refine ⟨⟨.str kind, .str name, .str "nfd"⟩, ?_, rfl⟩
  have hpresent : (Value.str name).isPresent = true := by simpa [Value.isPresent] using hname
  exact Cluster.lookupOf_eq_ok.mpr ⟨_, _, rfl, rfl, rfl, rfl, hpresent, rfl⟩

theorem nfdCluster_made : nfdCluster.Made :=
  .put .empty (Cluster.put_eq_ok.mpr ⟨_, nfdObject_keyed _ (by decide), rfl⟩)

/-- No supported kind is that of a secret. -/
theorem not_looksUnder_secret (r : Reconciler Site) (w : Site) (name : String) :
    ¬ LooksUnder nfdSettings r ⟨"nfd", "nfd-instance"⟩ w (nfdKey "Secret" name) := by
  intro hlooks
  cases hlooks with
  | «instance» hk =>
    obtain ⟨hkind, -⟩ := Lookup.key?_eq_some.mp hk
    simp [instanceLookup, nfdSettings, nfdKey, Value.key?] at hkind
  | @resource ss stage k resource key hl hs hb hk =>
    obtain ⟨hkind, -⟩ := Lookup.key?_eq_some.mp hk
    simp only [Resource.placeFor, nfdKey, Value.key?, Option.some.injEq, List.cons.injEq, and_true,
      KeyAtom.str.injEq] at hkind
    cases hresource : resource.kind <;> simp [hresource, Kind.name] at hkind

theorem secret_unseen :
    let cluster := nfdCluster.insert (nfdKey "Secret" "b") (nfdObject "Secret" "b")
    nfdCluster.put (nfdObject "Secret" "b") = .ok cluster ∧
      (nfdReconciled cluster).result = (nfdReconciled nfdCluster).result ∧
        (nfdReconciled cluster).effects = (nfdReconciled nfdCluster).effects := by
  intro cluster
  have hkeyed : Cluster.Keyed (nfdObject "Secret" "b") _ := nfdObject_keyed _ (by decide)
  have hput : nfdCluster.put (nfdObject "Secret" "b") = .ok cluster :=
    Cluster.put_eq_ok.mpr ⟨_, hkeyed, rfl⟩
  have hunseen := irrelevant_objects_unseen (w := nfdSite) (t := .quiet) id [("accounts", "d")]
    "NodeFeatureDiscovery" .null [] ⟨"nfd", "nfd-instance"⟩ (Site.host_reads 0) (fun _ => rfl)
    nfdCluster_made { nfdSite with cluster } rfl
  obtain ⟨hresult, -, heffects⟩ := hunseen.2 _ (not_looksUnder_secret _ _ _)
    (.inl ⟨_, hkeyed, hput⟩)
  exact ⟨hput, hresult, heffects⟩

end Reconciler
end StageGate
