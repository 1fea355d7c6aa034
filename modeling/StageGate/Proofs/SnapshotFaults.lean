import StageGate.Proofs.ReconcileEscapes
import StageGate.Proofs.ReportedOutcome

/-!
What a snapshot of odd objects leads to. An object that cannot be kept is refused as a bad value, and a
snapshot that cannot be loaded as a fault of loading or a bad value, all of which a command reports. Two
things escape as a mismatch of type: items of a list that cannot be walked through, and a kind, name or
namespace that is no key.
-/

namespace StageGate

theorem Lookup.key?_eq_none {l : Lookup} : l.key? = none ↔
    l.kind.key? = none ∨ l.name.key? = none ∨
      l.namespaceName.isPresent = true ∧ l.namespaceName.key? = none := by
  unfold Lookup.key?
  cases l.kind.key? with
  | none => simp
  | some kind =>
    cases l.name.key? with
    | none => simp
    | some name =>
      cases l.namespaceName.isPresent with
      | false => simp
      | true => cases l.namespaceName.key? <;> simp

/-! Objects. -/

namespace Cluster
variable {c c' : Cluster} {object : Value} {objects : List Value} {f : Fault}

/-- The object states a kind and a name, and one of the values that it is looked up by is no key. -/
def Unkeyed (object : Value) : Prop :=
  ∃ l, lookupOf object = .ok l ∧ (l.kind.key? = none ∨ l.name.key? = none ∨
    l.namespaceName.isPresent = true ∧ l.namespaceName.key? = none)

theorem isBadValue_fault (why : ObjectCause) : why.fault.isBadValue = true := by
  cases why with
  | notMapping => rfl
  | badMetadata kind | nameless kind =>
    cases hw : kind.isWritable <;> simp [ObjectCause.fault, hw, Fault.isBadValue]

theorem lookupOf_failsOnly (object : Value) : FailsOnly (·.isBadValue = true) (lookupOf object) := by
  unfold lookupOf
  split
  · exact .error (isBadValue_fault _)
  · split
    · exact .error (isBadValue_fault _)
    · dsimp only
      split
      · exact .error (isBadValue_fault _)
      · split
        · exact .ok _
        · exact .error (isBadValue_fault _)

/-- A put is refused for the object alone. -/
theorem put_eq_error : c.put object = .error f ↔
    lookupOf object = .error f ∨ f = .mismatch .wrongType ∧ Unkeyed object := by
  unfold put Unkeyed
  cases hl : lookupOf object with
  | error g => simp [bind, Except.bind]
  | ok l =>
    cases hk : l.key? with
    | none =>
      have hnone := Lookup.key?_eq_none.mp hk
      simp [keyOf, hk, hnone, bind, Except.bind, @eq_comm _ f]
    | some key =>
      have hsome : ¬ (l.kind.key? = none ∨ l.name.key? = none ∨
          l.namespaceName.isPresent = true ∧ l.namespaceName.key? = none) := by
        simp [← Lookup.key?_eq_none, hk]
      simp [keyOf, hk, hsome, bind, Except.bind, pure, Except.pure]

theorem put_eq_wrongType : c.put object = .error (.mismatch .wrongType) ↔ Unkeyed object := by
  rw [put_eq_error, or_iff_right]
  · simp
  · intro hl
    cases lookupOf_failsOnly object _ hl

theorem put_fault (hf : c.put object = .error f) : f.isBadValue = true ∨ f = .mismatch .wrongType := by
  rcases put_eq_error.mp hf with hl | ⟨rfl, -⟩
  · exact .inl (lookupOf_failsOnly object _ hl)
  · exact .inr rfl

/-- Objects are put up to the first that is refused, whatever the cluster holds. -/
theorem puts_eq_error : objects.foldlM put c = .error f ↔ FirstError Cluster.empty.put objects f := by
  induction objects generalizing c with
  | nil => simp [not_firstError_nil, pure, Except.pure]
  | cons object objects ih =>
    have hput : Cluster.empty.put object = .error f ↔ c.put object = .error f :=
      put_eq_error.trans put_eq_error.symm
    have hkept : (∃ c', Cluster.empty.put object = .ok c') ↔ ∃ c', c.put object = .ok c' := by
      simp [put_eq_ok]
    rw [List.foldlM_cons, firstError_cons, hput, hkept]
    cases hc : c.put object with
    | error g => simp [bind, Except.bind]
    | ok c' => simpa [bind, Except.bind] using ih

end Cluster

/-! Snapshots. -/

namespace Manifest

theorem listOf_eq_error {v : Value} {m : Mismatch} :
    listOf v = .error m ↔ m = .wrongType ∧ v.isPresent = true ∧ v.elements? = none := by
  unfold listOf
  cases v.isPresent with
  | false => simp
  | true => cases v.elements? <;> simp [eq_comm]

end Manifest

namespace Snapshot
variable {files : Files.Tree} {path : String} {docs : List Value} {doc : Value} {es : Mapping} {f : Fault}

theorem objectsOf_list (hes : doc.entries? = some es) (hkind : es.get "kind" = .str "List") :
    objectsOf doc = (Manifest.listOf (es.get "items")).mapError .mismatch := by
  simp only [objectsOf, hes, hkind]

/-- A document of a list has items, and these cannot be walked through. -/
def Unlisted (doc : Value) : Prop :=
  ∃ es, doc.entries? = some es ∧ es.get "kind" = .str "List" ∧ (es.get "items").isPresent = true ∧
    (es.get "items").elements? = none

theorem objectsOf_eq_error : objectsOf doc = .error f ↔ f = .mismatch .wrongType ∧ Unlisted doc := by
  constructor
  · intro hf
    unfold objectsOf at hf
    split at hf
    · rename_i es hes
      split at hf
      · rename_i hkind
        cases hlist : Manifest.listOf (es.get "items") with
        | ok items => simp [hlist] at hf
        | error m =>
          obtain ⟨rfl, hpresent, hitems⟩ := Manifest.listOf_eq_error.mp hlist
          simp only [hlist, mapError_error, Except.error.injEq] at hf
          exact ⟨hf.symm, es, hes, hkind, hpresent, hitems⟩
      · cases hf
    · cases hf
  · rintro ⟨rfl, es, hes, hkind, hpresent, hitems⟩
    have hlist := Manifest.listOf_eq_error.mpr ⟨rfl, hpresent, hitems⟩
    rw [objectsOf_list hes hkind, hlist]
    rfl

theorem objects_eq_ok {objects : List Value} : Snapshot.objects docs = .ok objects ↔
    ∃ groups, List.Forall₂ (fun doc group => objectsOf doc = .ok group) docs groups ∧
      groups.flatten = objects := by
  unfold Snapshot.objects
  rw [bind_eq_ok]
  simp only [mapM_eq_ok, pure, Except.pure, Except.ok.injEq]

theorem objects_eq_error :
    Snapshot.objects docs = .error f ↔ f = .mismatch .wrongType ∧ ∃ doc ∈ docs, Unlisted doc := by
  have herror : Snapshot.objects docs = .error f ↔ FirstError objectsOf docs f := by
    rw [← mapM_eq_error]
    unfold Snapshot.objects
    cases docs.mapM objectsOf <;> simp [bind, Except.bind, pure, Except.pure]
  rw [herror]
  constructor
  · intro hfirst
    obtain ⟨doc, hdoc, hf⟩ := hfirst.exists_error
    obtain ⟨rfl, hunlisted⟩ := objectsOf_eq_error.mp hf
    exact ⟨rfl, doc, hdoc, hunlisted⟩
  · rintro ⟨rfl, doc, hdoc, hunlisted⟩
    obtain ⟨f, hfirst⟩ := exists_firstError_of_mem hdoc (objectsOf_eq_error.mpr ⟨rfl, hunlisted⟩)
    obtain ⟨_, -, hf⟩ := hfirst.exists_error
    rwa [(objectsOf_eq_error.mp hf).1] at hfirst

/-- Documents that are read and describe no cluster for a mismatch of type: the items of a list cannot be
walked through, or else the first object that cannot be kept is one without a key. -/
inductive Escapes (docs : List Value) : Prop where
  | unlisted {doc : Value} (hdoc : doc ∈ docs) (hunlisted : Unlisted doc) : Escapes docs
  | unkeyed {before object after} (hobjects : Snapshot.objects docs = .ok (before ++ object :: after))
      (hbefore : ∀ o ∈ before, ∃ key, Cluster.Keyed o key) (hobject : Cluster.Unkeyed object) :
      Escapes docs

theorem ofDocuments_fault (hf : (Cluster.ofDocuments path docs).result = .error f) :
    f.isBadValue = true ∨ f = .mismatch .wrongType := by
  unfold Cluster.ofDocuments at hf
  split at hf
  · rename_i g hg
    cases hf
    exact .inr (objects_eq_error.mp hg).1
  · obtain ⟨object, -, hput⟩ := (Cluster.puts_eq_error.mp hf).exists_error
    exact Cluster.put_fault hput

theorem ofDocuments_eq_wrongType :
    (Cluster.ofDocuments path docs).result = .error (.mismatch .wrongType) ↔ Escapes docs := by
  have hkept (o : Value) : (∃ c', Cluster.empty.put o = .ok c') ↔ ∃ key, Cluster.Keyed o key := by
    simp [Cluster.put_eq_ok]
  unfold Cluster.ofDocuments
  cases hobjects : Snapshot.objects docs with
  | error f =>
    obtain ⟨rfl, doc, hdoc, hunlisted⟩ := objects_eq_error.mp hobjects
    simpa using Escapes.unlisted hdoc hunlisted
  | ok objects =>
    dsimp only [Cluster.ofObjects]
    rw [Cluster.puts_eq_error]
    constructor
    · rintro ⟨before, object, after, rfl, hbefore, hput⟩
      exact .unkeyed hobjects (fun o ho => (hkept o).mp (hbefore o ho)) (Cluster.put_eq_wrongType.mp hput)
    · intro hescape
      cases hescape with
      | unlisted hdoc hunlisted => cases hobjects.symm.trans (objects_eq_error.mpr ⟨rfl, _, hdoc, hunlisted⟩)
      | @unkeyed before object after hobjects' hbefore hobject =>
        cases hobjects.symm.trans hobjects'
        exact ⟨before, object, after, rfl, fun o ho => (hkept o).mpr (hbefore o ho),
          Cluster.put_eq_wrongType.mpr hobject⟩

variable [Yaml.Reader]

/-- The scalars and keys of the snapshot fit their types, if it has a text at all. -/
def Fits (files : Files.Tree) (path : String) : Prop :=
  ∀ bytes text m, files.read (Files.Path.ofText path).text = .ok bytes →
    Manifest.unmarkedTextOf? bytes = some text → Yaml.Reader.documents text ≠ .error (.mismatch m)

/-- The snapshot can be read, and its documents escape. -/
def EscapesAt (files : Files.Tree) (path : String) : Prop :=
  ∃ docs, documents files (Files.Path.ofText path).text = .ok docs ∧ Escapes docs

theorem documents_fault (hfits : Fits files path)
    (hf : documents files (Files.Path.ofText path).text = .error f) :
    (∃ why source, f = .load why source) ∨ f = .mismatch .badEncoding := by
  unfold documents at hf
  cases hread : files.read (Files.Path.ofText path).text with
  | error why =>
    simp only [hread, mapError_error, bind, Except.bind, Except.error.injEq] at hf
    exact .inl ⟨_, _, hf.symm⟩
  | ok bytes =>
    simp only [hread, mapError_ok, bind, Except.bind] at hf
    cases htext : Manifest.unmarkedTextOf? bytes with
    | none =>
      simp only [htext, Except.error.injEq] at hf
      exact .inr hf.symm
    | some text =>
      cases hdocs : Yaml.Reader.documents text with
      | ok docs => simp [htext, hdocs] at hf
      | error why =>
        simp only [htext, hdocs, mapError_error, Except.error.injEq] at hf
        cases why with
        | malformed => exact .inl ⟨_, _, hf.symm⟩
        | mismatch m => exact absurd hdocs (hfits bytes text m hread htext)

theorem ofSnapshot_fault (hfits : Fits files path)
    (hf : (Cluster.ofSnapshot files path).result = .error f) :
    (∃ why source, f = .load why source) ∨ f.isBadValue = true ∨ f = .mismatch .wrongType := by
  unfold Cluster.ofSnapshot at hf
  dsimp only at hf
  split at hf
  · rename_i g hg
    cases hf
    rcases documents_fault hfits hg with hload | rfl
    · exact .inl hload
    · exact .inr (.inl rfl)
  · exact .inr (ofDocuments_fault hf)

theorem ofSnapshot_eq_wrongType (hfits : Fits files path) :
    (Cluster.ofSnapshot files path).result = .error (.mismatch .wrongType) ↔ EscapesAt files path := by
  unfold Cluster.ofSnapshot EscapesAt
  dsimp only
  cases hdocs : documents files (Files.Path.ofText path).text with
  | error f =>
    have hf : f ≠ .mismatch .wrongType := by
      rintro rfl
      simpa using documents_fault hfits hdocs
    simp [hf]
  | ok docs => simpa using ofDocuments_eq_wrongType

end Snapshot

/-! Commands. -/

namespace CommandLine
open Snapshot (Fits EscapesAt)

variable {World : Type} {s : Surroundings World} {files : Files.Tree} {o : Options} {c : Config}
  {i : Identity} {t : Token} {w : World} {f : Fault}

/-- All that the options ask for besides the snapshot is in order: the configuration, whose timeout fits the
clock, the identity, and the manifests, which may be refused, but for nothing that escapes from loading
them. -/
structure Valid [Yaml.Reader] (World : Type) (files : Files.Tree) (o : Options) (c : Config)
    (i : Identity) : Prop where
  config : configFor files o = .ok c
  identity : identityOf (o.identity.getD "") = .ok i
  timely : ∀ now, ∃ t, Token.ofTimeout now c.timeout = .ok t
  manifests : ∀ d ∈ c.stageDirs, FailsOnly (·.isDecode = true) (Stage.built World files d)

theorem statusOf_mem (outcome : Outcome) : statusOf outcome ∈ [0, 1, 2] := by
  unfold statusOf success failure requeued
  split
  · simp
  · split <;> simp

section
variable [Yaml.Reader]

/-- Where nothing escapes from loading the manifests, nothing escapes from the reconcile of a command. -/
theorem Prepared.exists_outcome (hp : Prepared s files o c i t w)
    (hmanifests : ∀ d ∈ c.stageDirs, FailsOnly (·.isDecode = true) (Stage.built World files d)) :
    ∃ outcome, (reconciled s c i t w).result.2 = .ok outcome := by
  cases hran : (reconciled s c i t w).result.2 with
  | ok outcome => exact ⟨outcome, rfl⟩
  | error f =>
    have hran' : (Reconciler.new.reconcile (s.settings c) s.host i (some t) w).result.2 = .error f := hran
    cases Reconciler.reconcile_eq_error.mp hran' with
    | untimed htoken => cases htoken
    | @unloaded _ subject t' w' _ htoken ht hg hl hf =>
      cases htoken
      have hloaded : ((s.settings c).source w').result = .error f :=
        (Reconciler.new_stages _ w').symm.trans hl
      obtain ⟨d, hd, hbuilt⟩ := (StageSource.ofDirectories_eq_error.mp hloaded).exists_error
      have hsite := s.reads.site (Reconciler.instanceLookup (s.settings c) i) t w
      obtain ⟨cluster, -, rfl⟩ := hp.snapshot
      simp only [hg, s.site_enter] at hsite
      rw [hsite] at hbuilt
      simp [hmanifests d hd f hbuilt] at hf

theorem reconcile_unsnapped (s : Surroundings World) (hconfig : configFor files o = .ok c)
    (hidentity : identityOf (o.identity.getD "") = .ok i)
    (hloaded : (Cluster.ofSnapshot files (o.cluster.getD "")).result = .error f) :
    reconcile s files o = stopped f (Cluster.ofSnapshot files (o.cluster.getD "")).events := by
  simp [reconcile, hconfig, hidentity, hloaded, bind, Except.bind, pure, Except.pure]

/-- A command ends with a status unless the snapshot escapes, and then with that mismatch. -/
theorem reconcile_ends (s : Surroundings World) (hvalid : Valid World files o c i)
    (hfits : Fits files (o.cluster.getD "")) :
    (∃ n ∈ [0, 1, 2], (reconcile s files o).status = .ok n) ∧ ¬ EscapesAt files (o.cluster.getD "") ∨
      (reconcile s files o).status = .error (.mismatch .wrongType) ∧
        EscapesAt files (o.cluster.getD "") := by
  obtain ⟨hconfig, hidentity, htimely, hmanifests⟩ := hvalid
  rw [← Snapshot.ofSnapshot_eq_wrongType hfits]
  cases hloaded : (Cluster.ofSnapshot files (o.cluster.getD "")).result with
  | ok cluster =>
    obtain ⟨t, ht⟩ := htimely (s.host.now (s.enter ⟨cluster, files⟩))
    have hp : Prepared s files o c i t (s.enter ⟨cluster, files⟩) :=
      ⟨hconfig, hidentity, ⟨cluster, hloaded, rfl⟩, ht⟩
    obtain ⟨outcome, hran⟩ := hp.exists_outcome hmanifests
    exact .inl ⟨⟨_, statusOf_mem outcome, (hp.reported hran).1⟩, nofun⟩
  | error f =>
    rw [reconcile_unsnapped s hconfig hidentity hloaded]
    rcases Snapshot.ofSnapshot_fault hfits hloaded with ⟨why, source, rfl⟩ | hbad | rfl
    · exact .inl ⟨⟨1, by simp, rfl⟩, nofun⟩
    · have hreported : isReported f = true := by simp [isReported, hbad]
      have hf : f ≠ .mismatch .wrongType := by
        rintro rfl
        cases hbad
      exact .inl ⟨⟨1, by simp, by simp [stopped, hreported, failure]⟩, by simpa using hf⟩
    · exact .inr ⟨rfl, rfl⟩

/-- A put keeps the object, or refuses it as a bad value unless a value that it is looked up by is no key.
A snapshot gives a cluster, a fault of loading or a bad value unless it escapes: the items of a list cannot
be walked through, or the first object that cannot be kept is one without a key. A command that is valid
otherwise then ends without a status, and in no other case. -/
theorem snapshot_ends {World : Type} (cluster : Cluster) (object : Value) (files : Files.Tree) (path : String)
    (s : Surroundings World) (o : Options) (c : Config) (i : Identity) :
    ((∀ cluster', cluster.put object = .ok cluster' ↔
        ∃ key, Cluster.Keyed object key ∧ cluster' = cluster.insert key object) ∧
      (∀ f, cluster.put object = .error f → f.isBadValue = true ∨ f = .mismatch .wrongType) ∧
      (cluster.put object = .error (.mismatch .wrongType) ↔ Cluster.Unkeyed object)) ∧
    (Fits files path →
      (∀ f, (Cluster.ofSnapshot files path).result = .error f →
        (∃ why source, f = .load why source) ∨ f.isBadValue = true ∨ f = .mismatch .wrongType) ∧
      ((Cluster.ofSnapshot files path).result = .error (.mismatch .wrongType) ↔ EscapesAt files path)) ∧
    (Valid World files o c i → Fits files (o.cluster.getD "") →
      ((∃ n ∈ [0, 1, 2], (reconcile s files o).status = .ok n) ↔ ¬ EscapesAt files (o.cluster.getD "")) ∧
      ∀ f, (reconcile s files o).status = .error f ↔
        f = .mismatch .wrongType ∧ EscapesAt files (o.cluster.getD "")) := by
  refine ⟨⟨fun cluster' => Cluster.put_eq_ok, fun f => Cluster.put_fault, Cluster.put_eq_wrongType⟩,
    fun hfits => ⟨fun f => Snapshot.ofSnapshot_fault hfits, Snapshot.ofSnapshot_eq_wrongType hfits⟩,
    fun hvalid hfits => ?_⟩
  rcases reconcile_ends s hvalid hfits with ⟨⟨n, hn, hstatus⟩, hnot⟩ | ⟨hstatus, hescapes⟩
  · exact ⟨iff_of_true ⟨n, hn, hstatus⟩ hnot, fun f => by simp [hstatus, hnot]⟩
  · exact ⟨iff_of_false (by simp [hstatus]) (not_not_intro hescapes),
      fun f => by simp [hstatus, hescapes, eq_comm]⟩

end

/-! Two snapshots of one document each: a list whose items are a number, and an object whose kind is a
list. -/

def numberedText : String := "kind: List\nitems: 5\n"

def listedText : String := "kind: [Pod]\nmetadata:\n  name: a\n"

def listedObject : Value :=
  .map false [(.str "kind", .list [.str "Pod"]), (.str "metadata", .map false [(.str "name", .str "a")])]

/-- The directories of accounts, and a snapshot with the text. -/
def snapshotFiles (text : String) : Files.Tree :=
  ⟨.directory [("d", .directory [("a", Stepper.accountFile "a")] .full),
    ("e", .directory [("b", Stepper.accountFile "b")] .full),
    ("c.yaml", .file text.toUTF8.toList false)] .full, []⟩

theorem snapshotFiles_fits [Yaml.Reader] {text : String}
    (htext : Manifest.unmarkedTextOf? text.toUTF8.toList = some text)
    (hread : (Yaml.Reader.documents text).toOption.isSome = true) : Fits (snapshotFiles text) "c.yaml" := by
  intro bytes text' m hbytes htext' hm
  have hfile : (snapshotFiles text).read (Files.Path.ofText "c.yaml").text = .ok text.toUTF8.toList := rfl
  cases hfile.symm.trans hbytes
  cases htext.symm.trans htext'
  simp [hm, Except.toOption] at hread

theorem snapshotFiles_valid [Yaml.Reader] {text : String}
    (hbuilt : ∀ d ∈ stagedConfig.stageDirs,
      (Stage.built Site (snapshotFiles text) d).toOption.isSome = true) :
    Valid Site (snapshotFiles text) stagedOptions stagedConfig ⟨"nfd", "nfd-instance"⟩ := by
  refine ⟨rfl, rfl, fun _ => ⟨_, rfl⟩, fun d hd f hf => ?_⟩
  have hsome := hbuilt d hd
  simp [hf, Except.toOption] at hsome

/-- The object without a key is what the snapshot escapes for. -/
theorem listed_snapshot_ends :
    Valid Site (snapshotFiles listedText) stagedOptions stagedConfig ⟨"nfd", "nfd-instance"⟩ ∧
      Fits (snapshotFiles listedText) "c.yaml" ∧ EscapesAt (snapshotFiles listedText) "c.yaml" := by
  have hvalid : Valid Site (snapshotFiles listedText) stagedOptions stagedConfig ⟨"nfd", "nfd-instance"⟩ :=
    snapshotFiles_valid (by decide +kernel)
  have hfits : Fits (snapshotFiles listedText) "c.yaml" :=
    snapshotFiles_fits (by decide +kernel) (by decide +kernel)
  have hstatus : (reconcile (.still 0) (snapshotFiles listedText) stagedOptions).status =
      .error (.mismatch .wrongType) := Manifest.endsIn_iff.mp (by decide +kernel)
  obtain ⟨-, -, hcommand⟩ := snapshot_ends .empty listedObject (snapshotFiles listedText) "c.yaml"
    (.still 0) stagedOptions stagedConfig ⟨"nfd", "nfd-instance"⟩
  obtain ⟨-, hends⟩ := hcommand hvalid hfits
  exact ⟨hvalid, hfits, ((hends _).mp hstatus).2⟩

/-- Neither is refused as a bad value, and neither command ends with a status. -/
theorem odd_snapshots_escape :
    ¬ ((∃ c, Cluster.empty.put listedObject = .ok c) ∨
        ∃ f, Cluster.empty.put listedObject = .error f ∧ f.isBadValue = true) ∧
      (Cluster.ofSnapshot (snapshotFiles numberedText) "c.yaml").result = .error (.mismatch .wrongType) ∧
      ∀ text ∈ [numberedText, listedText],
        Valid Site (snapshotFiles text) stagedOptions stagedConfig ⟨"nfd", "nfd-instance"⟩ ∧
          ¬ ∃ n, (reconcile (.still 0) (snapshotFiles text) stagedOptions).status = .ok n := by
  have hput : Cluster.empty.put listedObject = .error (.mismatch .wrongType) := rfl
  refine ⟨?_, Manifest.endsIn_iff.mp (by decide +kernel), fun text htext => ?_⟩
  · rintro (⟨c, hc⟩ | ⟨f, hf, hbad⟩)
    · cases hput.symm.trans hc
    · cases hput.symm.trans hf
      cases hbad
  · simp only [List.mem_cons, List.not_mem_nil, or_false] at htext
    rcases htext with rfl | rfl
    · have hstatus : (reconcile (.still 0) (snapshotFiles numberedText) stagedOptions).status =
          .error (.mismatch .wrongType) := Manifest.endsIn_iff.mp (by decide +kernel)
      exact ⟨snapshotFiles_valid (by decide +kernel), by simp [hstatus]⟩
    · have hstatus : (reconcile (.still 0) (snapshotFiles listedText) stagedOptions).status =
          .error (.mismatch .wrongType) := Manifest.endsIn_iff.mp (by decide +kernel)
      exact ⟨snapshotFiles_valid (by decide +kernel), by simp [hstatus]⟩

end CommandLine
end StageGate
