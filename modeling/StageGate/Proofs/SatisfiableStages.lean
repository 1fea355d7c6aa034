import StageGate.Proofs.AddedObjects
import StageGate.Proofs.DecodedMetadata

/-!
Satisfiable stages. One live object meets the rule of every kind, so with such an object under each key
that a reconcile looks under every check is ready: the main result says that stages that can be built
from named resources can all be passed at once.
-/

namespace StageGate

/-- What the key of a live object can be made of: text for the kind and the name, and text or nothing for
the namespace. -/
structure Lookup.Plain (l : Lookup) : Prop where
  kind : ∃ s, l.kind = .str s
  name : ∃ s, l.name = .str s ∧ s ≠ ""
  namespaceName : l.namespaceName = .null ∨ ∃ s, l.namespaceName = .str s

/-- A live object that is found by the look-up and that is ready whatever is asked of it. -/
def Lookup.liveObject (l : Lookup) : Value :=
  .map false [
    (.str "kind", l.kind),
    (.str "metadata", .map false [(.str "name", l.name), (.str "namespace", l.namespaceName)]),
    (.str "status", .map false [(.str "phase", .str "Succeeded")])]

namespace Lookup.Plain
variable {l : Lookup}

theorem exists_key (hl : l.Plain) : ∃ key, l.key? = some key := by
  obtain ⟨kind, name, ns⟩ := l
  obtain ⟨⟨kind, rfl⟩, ⟨name, rfl, -⟩, rfl | ⟨ns, rfl⟩⟩ := hl
  · exact ⟨⟨[.str kind], none, [.str name]⟩, rfl⟩
  · by_cases hns : (Value.str ns).isPresent = true
    · exact ⟨⟨[.str kind], some [.str ns], [.str name]⟩, by simp [key?, hns, Value.key?]⟩
    · exact ⟨⟨[.str kind], none, [.str name]⟩, by simp [key?, hns, Value.key?]⟩

theorem lookupOf_liveObject (hl : l.Plain) : Cluster.lookupOf l.liveObject = .ok l := by
  obtain ⟨kind, name, ns⟩ := l
  obtain ⟨⟨kind, rfl⟩, ⟨name, rfl, hname⟩, hns⟩ := hl
  have hpresent : (Value.str name).isPresent = true := by simpa [Value.isPresent] using hname
  rcases hns with rfl | ⟨ns, rfl⟩
  · exact Cluster.lookupOf_eq_ok.mpr ⟨_, _, rfl, rfl, rfl, rfl, hpresent, rfl⟩
  · exact Cluster.lookupOf_eq_ok.mpr ⟨_, _, rfl, rfl, rfl, rfl, hpresent, rfl⟩

theorem liveObject_status (hl : l.Plain) :
    Readiness.HasStatus l.liveObject [(.str "phase", .str "Succeeded")] := by
  obtain ⟨kind, name, ns⟩ := l
  obtain ⟨⟨kind, rfl⟩, ⟨name, rfl, -⟩, rfl | ⟨ns, rfl⟩⟩ := hl
  · exact .present rfl rfl
  · exact .present rfl rfl

/-- It has succeeded as a pod, is no namespace that goes away, and as a daemon set desires nothing. -/
theorem liveObject_meets (hl : l.Plain) (k : Kind) : Readiness.Meets k l.liveObject := by
  have hs := hl.liveObject_status
  by_cases hk : Readiness.HasRule k
  · rcases hk with rfl | rfl | rfl
    · exact .staying hs (by simp [Mapping.get, Mapping.get?])
    · have habsent : Readiness.Counts .null 0 := .inl ⟨rfl, rfl⟩
      exact .unwanted hs ⟨habsent, habsent, habsent⟩
    · exact .succeeded hs rfl
  · exact .present hk

end Lookup.Plain

theorem Resource.placeFor_plain {r : Resource} (hr : r.metadata.Textual)
    (hname : r.name.isPresent = true) (i : Identity) : (r.placeFor i).Plain := by
  obtain ⟨⟨name, hname'⟩, hns⟩ := hr
  refine ⟨⟨_, rfl⟩, ⟨name, hname', ?_⟩, ?_⟩
  · rintro rfl
    simp [Resource.name, hname', Value.isPresent] at hname
  · simp only [placeFor]
    split
    · exact .inl rfl
    · split
      · exact hns
      · exact .inr ⟨_, rfl⟩

namespace Cluster
variable {places : List Lookup} {c : Cluster} {l : Lookup} {key : ObjectKey}

/-- The cluster has a live object for each of the places. -/
theorem exists_ofPlaces (hplaces : ∀ l ∈ places, l.Plain) :
    ∃ c, ofObjects (places.map Lookup.liveObject) = .ok c := by
  refine exists_puts (fun o ho => ?_) .empty
  obtain ⟨l, hl, rfl⟩ := List.mem_map.mp ho
  obtain ⟨key, hkey⟩ := (hplaces l hl).exists_key
  exact ⟨key, l, (hplaces l hl).lookupOf_liveObject, hkey⟩

/-- Under the key of each place lies the object of some place. -/
theorem find?_ofPlaces (hplaces : ∀ l ∈ places, l.Plain)
    (hc : ofObjects (places.map Lookup.liveObject) = .ok c) (hl : l ∈ places)
    (hk : l.key? = some key) : ∃ l' ∈ places, c.find? key = some l'.liveObject ∧
      Keyed l'.liveObject key := by
  have hkeyed : Keyed l.liveObject key := ⟨l, (hplaces l hl).lookupOf_liveObject, hk⟩
  obtain ⟨o, ho, hokey, hfound⟩ := find?_puts_self hc (List.mem_map_of_mem hl) hkeyed
  obtain ⟨l', hl', rfl⟩ := List.mem_map.mp ho
  exact ⟨l', hl', hfound, hokey⟩

end Cluster

namespace Stage
variable {World : Type} {files : Files.Tree} {directories : List (String × String)}
  {ss : List (Stage World)} {r : Resource}

/-- The resources in the bundles of stages. -/
def bundled (ss : List (Stage World)) : List Resource :=
  ss.flatMap fun s => Kind.all.filterMap s.bundle.get

theorem mem_bundled : r ∈ bundled ss ↔ ∃ s ∈ ss, ∃ k, s.bundle.get k = some r := by
  have hall (k : Kind) : k ∈ Kind.all := by cases k <;> decide
  simp [bundled, hall]

/-- Each check of built stages is that of the control of a kind with a resource in its slot. -/
theorem AllBuilt.filled [Yaml.Reader] (hss : AllBuilt files directories ss) {n : Nat} {c : Check World}
    (hc : c ∈ checksFrom n ss) :
    ∃ k r, c.control = Readiness.control World k ∧ c.stage.bundle.get k = some r ∧
      r ∈ bundled ss := by
  obtain ⟨hstage, hcontrol⟩ := mem_checksFrom hc
  obtain ⟨d, -, hbuilt⟩ := hss.exists_directory hstage
  obtain ⟨k, r, hk, hslot⟩ := build_filled hbuilt hcontrol
  exact ⟨k, r, hk, hslot, mem_bundled.mpr ⟨_, hstage, k, hslot⟩⟩

end Stage

namespace Reconciler
variable {World : Type} {files : Files.Tree} {directories : List (String × String)}
  {ss : List (Stage World)} {i : Identity} {l : Lookup}

/-- The places at which a reconcile looks: that of the instance and those of the bundled resources. -/
def places (l : Lookup) (i : Identity) (ss : List (Stage World)) : List Lookup :=
  l :: (Stage.bundled ss).map (·.placeFor i)

section
variable [Yaml.Reader]

theorem places_plain (hss : Stage.AllBuilt files directories ss)
    (hnamed : ∀ r ∈ Stage.bundled ss, r.name.isPresent = true) (hl : l.Plain) :
    ∀ l' ∈ places l i ss, l'.Plain := by
  intro l' hl'
  rcases List.mem_cons.mp hl' with rfl | hl'
  · exact hl
  · obtain ⟨r, hr, rfl⟩ := List.mem_map.mp hl'
    obtain ⟨s, hs, k, hslot⟩ := Stage.mem_bundled.mp hr
    exact Resource.placeFor_plain (hss.textual hs hslot) (hnamed r hr) i

/-- With a live object at each of the places, every check is ready for an instance in the namespace of
its identity. -/
theorem checks_ready {cluster : Cluster} {subject : Value} {key : ObjectKey}
    (hss : Stage.AllBuilt files directories ss) (hplaces : ∀ l' ∈ places l i ss, l'.Plain)
    (hcluster : Cluster.ofObjects ((places l i ss).map Lookup.liveObject) = .ok cluster)
    (hkeyed : Cluster.Keyed subject key)
    (hns : namespaceKey? (.str i.namespaceName) = some key.namespaceName) :
    ∀ c ∈ checksFrom 0 ss, c.ComesTo cluster subject (.ok .ready) := by
  intro c hc
  obtain ⟨k, r, hcontrol, hslot, hr⟩ := hss.filled hc
  have hplace : r.placeFor i ∈ places l i ss := List.mem_cons_of_mem _ (List.mem_map_of_mem hr)
  obtain ⟨key', hkey'⟩ := (hplaces _ hplace).exists_key
  obtain ⟨l', hl', hfound, -⟩ := Cluster.find?_ofPlaces hplaces hcluster hplace hkey'
  obtain ⟨placed, hplaced, hsame⟩ := Readiness.lookupFor_of_keyed hkeyed hns r
  have hget := Cluster.get_eq_ok.mpr ⟨key', hsame.trans hkey', hfound⟩
  have hmeets := (hplaces l' hl').liveObject_meets k
  exact ⟨k, hcontrol, Readiness.checkIn_ready hslot hplaced hget hmeets⟩

/-- For stages that can all be built, and whose bundled resources all have a name, there are live objects
with which a reconcile of the instance is done, every control having been run and found ready: with a
token that does not fire, in whatever surroundings the cluster is looked up, and after whatever uses of
the reconciler that have not left it with other stages. -/
theorem built_stages_satisfiable (hss : Stage.AllBuilt files directories ss)
    (hnamed : ∀ s ∈ ss, ∀ k r, s.bundle.get k = some r → r.name.isPresent = true)
    (instanceKind : String) (timeout : Value) (i : Identity) (hname : i.name ≠ "") :
    ∃ objects cluster, Cluster.ofObjects objects = .ok cluster ∧
      ∀ (h : Host World) (site : World → Site) (t : Token) (w : World) (uses : List (Use World)),
        let settings : Settings World :=
          ⟨.ofDirectories (fun w => (site w).files) directories, instanceKind, timeout⟩
        let r := used settings uses
        let ran := r.reconcile settings h i (some t) w
        h.Reads site → (∀ v, t.fired (h.now v) = false) → site w = ⟨cluster, files⟩ →
        (r.catalog.kept = none ∨ r.catalog.kept = some ss) →
        ran.result.2 = .ok .done ∧
          ∃ subject w₁ p, h.get (instanceLookup settings i) t w = (.ok subject, t, w₁) ∧
            Passes h subject (checksFrom 0 ss) t w₁ p ∧
            Stepper.acts ran.effects =
              .lookup (instanceLookup settings i) :: Stepper.acts p.effects := by
  let l : Lookup := ⟨.str instanceKind, .str i.name, .str i.namespaceName⟩
  have hl : l.Plain := ⟨⟨_, rfl⟩, ⟨_, rfl, hname⟩, .inr ⟨_, rfl⟩⟩
  have hplaces : ∀ l' ∈ places l i ss, l'.Plain := by
    refine places_plain hss (fun r hr => ?_) hl
    obtain ⟨s, hs, k, hslot⟩ := Stage.mem_bundled.mp hr
    exact hnamed s hs k r hslot
  obtain ⟨cluster, hcluster⟩ := Cluster.exists_ofPlaces hplaces
  refine ⟨_, cluster, hcluster, ?_⟩
  intro h site t w uses settings r ran hh ht hsite hkept
  have hr : Coherent settings r := coherent_used settings uses
  have hlookup : instanceLookup settings i = l := rfl
  obtain ⟨key, hkey⟩ := hl.exists_key
  obtain ⟨-, -, hns⟩ := Lookup.key?_eq_some.mp hkey
  obtain ⟨l', -, hfound, hkeyed⟩ := Cluster.find?_ofPlaces hplaces hcluster List.mem_cons_self hkey
  have hinstance := Cluster.get_eq_ok.mpr ⟨key, hkey, hfound⟩
  obtain ⟨w₁, hget, hsite₁⟩ := hh.get_eq (instanceLookup settings i) t w
  rw [hsite, hlookup, hinstance] at hget
  have hloaded : (r.catalog.stages settings.source w₁).2.result = .ok ss := by
    rcases hkept with hnone | hsome
    · rw [Catalog.stages_of_not_kept hnone]
      refine StageSource.ofDirectories_eq_ok.mpr ?_
      rw [hsite₁, hsite]
      exact hss
    · rw [Catalog.stages_of_kept hsome]
  have hready := checks_ready hss hplaces hcluster hkeyed hns
  have hcluster₁ : (site w₁).cluster = cluster := by rw [hsite₁, hsite]
  obtain ⟨p, hp⟩ := exists_passes (t := t) hh ht (hcluster₁ ▸ hready)
  obtain ⟨swept, s, hs⟩ := hr.reconcileWith_swept (ht w) hget hloaded
  obtain rfl : p = swept := hp.sweep.deterministic hs.sweep
  exact ⟨(hs.done hp).1, _, w₁, p, hget, hp, hs.acts⟩

end

theorem accounts_satisfiable :
    ∃ ss : List (Stage Site), Stage.AllBuilt Stepper.accountFiles [("accounts", "d")] ss ∧
      (∀ s ∈ ss, ∀ k r, s.bundle.get k = some r → r.name.isPresent = true) ∧
      ∃ objects cluster, Cluster.ofObjects objects = .ok cluster ∧
        (nfdReconciled cluster).result.2 = .ok .done := by
  obtain ⟨a, b, hisa, hisb, hbuild⟩ := Stepper.accounts_built Site (some "accounts")
  let stage := (Draft.mk [a, b] []).toStage Site "accounts" "d"
  have hss : Stage.AllBuilt Stepper.accountFiles [("accounts", "d")] [stage] := .cons hbuild .nil
  have hnamed : ∀ s ∈ [stage], ∀ k r, s.bundle.get k = some r → r.name.isPresent = true := by
    intro s hs k r hslot
    rw [List.mem_singleton.mp hs] at hslot
    have hbundle := (hisa.bundle hisb k).symm.trans hslot
    split at hbundle
    · cases hbundle
      rw [hisb.name]
      rfl
    · cases hbundle
  obtain ⟨objects, cluster, hcluster, hdone⟩ := built_stages_satisfiable hss hnamed
    "NodeFeatureDiscovery" .null ⟨"nfd", "nfd-instance"⟩ (by decide)
  obtain ⟨houtcome, -⟩ := hdone (Site.host 0) id .quiet ⟨cluster, Stepper.accountFiles⟩ []
    (Site.host_reads 0) (fun _ => rfl) rfl (.inl rfl)
  exact ⟨[stage], hss, hnamed, objects, cluster, hcluster, houtcome⟩

end Reconciler
end StageGate
