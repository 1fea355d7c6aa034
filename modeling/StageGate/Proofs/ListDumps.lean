import StageGate.Proofs.ClusterHistory
import StageGate.Proofs.DecodedResources
import StageGate.Proofs.ReadDocuments
import StageGate.Proofs.SnapshotFaults

/-!
Snapshots that pack objects into lists. However consecutive objects are grouped as the items of list
documents, and whatever null documents stand between them, the snapshot comes to the same cluster or the
same fault as one with a document for each object.
-/

namespace StageGate.Snapshot

/-- The document states one object, itself: it is not null, and no list. -/
structure Single (doc : Value) : Prop where
  notNull : doc ≠ .null
  notList : ∀ es, doc.entries? = some es → es.get "kind" ≠ .str "List"

/-- The document is a list with the group for its items, which it may leave out if there are none. -/
def Lists (doc : Value) (group : List Value) : Prop :=
  ∃ es, doc.entries? = some es ∧ es.get "kind" = .str "List" ∧
    ((es.get "items").items? = some group ∨ (es.get "items").isPresent = false ∧ group = [])

/-- The documents state the objects in their order, each alone or in a list with some that come next to
it. Null documents may stand anywhere. -/
inductive Packs : List Value → List Value → Prop where
  | nil : Packs [] []
  | null {docs objects} (hrest : Packs docs objects) : Packs (.null :: docs) objects
  | alone {docs objects} (object) (hrest : Packs docs objects) : Packs (object :: docs) (object :: objects)
  | list {doc group docs objects} (hdoc : Lists doc group) (hrest : Packs docs objects) :
      Packs (doc :: docs) (group ++ objects)

variable {doc : Value} {docs packed objects group : List Value} {files files' : Files.Tree}
  {path path' : String} {c : Cluster} {l : Lookup} {f : Fault}

theorem objectsOf_null : objectsOf .null = .ok [] := rfl

theorem Single.objectsOf_eq (hdoc : Single doc) : objectsOf doc = .ok [doc] := by
  unfold objectsOf
  cases hes : doc.entries? with
  | none =>
    have hnull : Manifest.isNull doc = false := by
      simpa using mt Manifest.isNull_iff.mp hdoc.notNull
    simp [hnull]
  | some es =>
    have hkind := hdoc.notList es hes
    dsimp only
    split
    · contradiction
    · rfl

theorem Lists.objectsOf_eq (hdoc : Lists doc group) : objectsOf doc = .ok group := by
  obtain ⟨es, hes, hkind, hitems⟩ := hdoc
  rw [objectsOf_list hes hkind]
  rcases hitems with hitems | ⟨habsent, rfl⟩
  · rw [Manifest.listOf_of_items hitems]
    rfl
  · simp [Manifest.listOf, habsent]

/-- The objects of the documents are those that they pack, in the same order. -/
theorem Packs.objects_eq (hpacks : Packs docs objects) (hsingle : ∀ o ∈ objects, Single o) :
    Snapshot.objects docs = .ok objects := by
  rw [objects_eq_ok]
  induction hpacks with
  | nil => exact ⟨[], .nil, rfl⟩
  | null _ ih =>
    obtain ⟨groups, hgroups, rfl⟩ := ih hsingle
    exact ⟨[] :: groups, .cons objectsOf_null hgroups, rfl⟩
  | alone object _ ih =>
    obtain ⟨hobject, hrest⟩ := List.forall_mem_cons.mp hsingle
    obtain ⟨groups, hgroups, rfl⟩ := ih hrest
    exact ⟨[object] :: groups, .cons hobject.objectsOf_eq hgroups, rfl⟩
  | @list doc group _ _ hdoc _ ih =>
    obtain ⟨-, hrest⟩ := List.forall_mem_append.mp hsingle
    obtain ⟨groups, hgroups, rfl⟩ := ih hrest
    exact ⟨group :: groups, .cons hdoc.objectsOf_eq hgroups, rfl⟩

/-- Objects that each have a document of their own are packed too. -/
theorem packs_alone (objects : List Value) : Packs objects objects := by
  induction objects with
  | nil => exact .nil
  | cons object _ ih => exact .alone object ih

/-- What a snapshot comes to depends on the objects that it packs alone. -/
theorem Packs.ofSnapshot_result [Yaml.Reader] (hpacks : Packs docs objects)
    (hsingle : ∀ o ∈ objects, Single o)
    (hread : documents files (Files.Path.ofText path).text = .ok docs) :
    (Cluster.ofSnapshot files path).result = Cluster.ofObjects objects := by
  unfold Cluster.ofSnapshot
  dsimp only
  rw [hread]
  simp only [Cluster.ofDocuments, hpacks.objects_eq hsingle]

/-- Of the objects that are found under the key of the look-up it is the last. -/
def LastUnder (objects : List Value) (l : Lookup) (object : Value) : Prop :=
  Cluster.LastWrite (objects.map .put) l (.put object)

theorem get_ofObjects (hc : Cluster.ofObjects objects = .ok c) (hl : l.key?.isSome = true) :
    (∀ object, c.get l = .ok object ↔ LastUnder objects l object) ∧
      ((¬ ∃ object, LastUnder objects l object) → c.get l = .error l.absence) := by
  obtain ⟨key, hk⟩ := Option.isSome_iff_exists.mp hl
  have hperformed : Cluster.performed (objects.map .put) = c := Cluster.perform_puts hc
  have hfind (object : Value) : c.find? key = some object ↔ LastUnder objects l object := by
    rw [← hperformed]
    exact Cluster.find?_performed hk
  simp only [← hfind, Cluster.get_of_key hk]
  cases hf : c.find? key with
  | none => simp
  | some object => simp

/-- A snapshot that packs objects and one with a document for each of them come to the same cluster, in
which a look-up finds the last of the objects under its key, or they fail alike: with the fault of the first
object that cannot be kept. -/
theorem packed_same [Yaml.Reader] (hpacked : Packs packed objects) (hsingle : ∀ o ∈ objects, Single o)
    (hread : documents files (Files.Path.ofText path).text = .ok packed)
    (hread' : documents files' (Files.Path.ofText path').text = .ok objects) :
    (Cluster.ofSnapshot files path).result = (Cluster.ofSnapshot files' path').result ∧
      (∀ f, (Cluster.ofSnapshot files path).result = .error f ↔
        FirstError Cluster.empty.put objects f) ∧
      ∀ c, (Cluster.ofSnapshot files path).result = .ok c → ∀ l, l.key?.isSome = true →
        (∀ object, c.get l = .ok object ↔ LastUnder objects l object) ∧
          ((¬ ∃ object, LastUnder objects l object) → c.get l = .error l.absence) := by
  have hresult := hpacked.ofSnapshot_result hsingle hread
  have hresult' := (packs_alone objects).ofSnapshot_result hsingle hread'
  refine ⟨hresult.trans hresult'.symm, fun f => ?_, fun c hc l hl => ?_⟩
  · rw [hresult]
    exact Cluster.puts_eq_error
  · exact get_ofObjects (hresult.symm.trans hc) hl

/-! Two pods of one name, each in a list with a null document between them, and one by one. -/

def packedText : String :=
  "kind: List\nitems:\n- {kind: Pod, metadata: {name: a}}\n---\n---\n" ++
    "kind: List\nitems:\n- {kind: Pod, metadata: {name: a}, spec: 1}\n"

def singleText : String :=
  "{kind: Pod, metadata: {name: a}}\n---\n{kind: Pod, metadata: {name: a}, spec: 1}\n"

def podWith (rest : Mapping) : Value :=
  .map false ((.str "kind", .str "Pod") :: (.str "metadata", .map false [(.str "name", .str "a")]) :: rest)

def listOfPod (rest : Mapping) : Value :=
  .map false [(.str "kind", .str "List"), (.str "items", .list [podWith rest])]

def twoPods : List Value :=
  [podWith [], podWith [(.str "spec", .int 1)]]

def packedPods : List Value :=
  [listOfPod [], .null, listOfPod [(.str "spec", .int 1)]]

theorem documents_snapshotFiles [Yaml.Reader] {text : String}
    (htext : Manifest.unmarkedTextOf? text.toUTF8.toList = some text)
    (hread : Yaml.Reader.documents text = .ok docs) :
    documents (CommandLine.snapshotFiles text) (Files.Path.ofText "c.yaml").text = .ok docs := by
  have hfile : (CommandLine.snapshotFiles text).read (Files.Path.ofText "c.yaml").text =
      .ok text.toUTF8.toList := rfl
  unfold documents
  rw [hfile]
  dsimp only [mapError_ok, bind, Except.bind]
  rw [htext]
  dsimp only
  rw [hread]
  rfl

theorem podWith_single (rest : Mapping) : Single (podWith rest) := by
  refine ⟨by simp [podWith], fun es hes => ?_⟩
  cases hes
  simp [Value.unfoldEntries, Value.unfold, Mapping.get, Mapping.get?]

/-- The second pod is found in the cluster of either snapshot. -/
theorem packed_pods_same :
    Packs packedPods twoPods ∧ (∀ o ∈ twoPods, Single o) ∧
      (Cluster.ofSnapshot (CommandLine.snapshotFiles packedText) "c.yaml").result =
        (Cluster.ofSnapshot (CommandLine.snapshotFiles singleText) "c.yaml").result ∧
      ∃ c, (Cluster.ofSnapshot (CommandLine.snapshotFiles packedText) "c.yaml").result = .ok c ∧
        c.get ⟨.str "Pod", .str "a", .null⟩ = .ok (podWith [(.str "spec", .int 1)]) := by
  have hfirst : Lists (listOfPod []) [podWith []] := ⟨_, rfl, rfl, .inl rfl⟩
  have hsecond : Lists (listOfPod [(.str "spec", .int 1)]) [podWith [(.str "spec", .int 1)]] :=
    ⟨_, rfl, rfl, .inl rfl⟩
  have hpacks : Packs packedPods twoPods := .list hfirst (.null (.list hsecond .nil))
  have hsingle : ∀ o ∈ twoPods, Single o := by
    simp [twoPods, podWith_single]
  have hpacked : Yaml.Reader.documents packedText = .ok packedPods :=
    Yaml.documents_of_alike (by decide +kernel)
  have hplain : Yaml.Reader.documents singleText = .ok twoPods :=
    Yaml.documents_of_alike (by decide +kernel)
  have hread := documents_snapshotFiles (by decide +kernel) hpacked
  have hread' := documents_snapshotFiles (by decide +kernel) hplain
  obtain ⟨hsame, -, hfound⟩ := packed_same hpacks hsingle hread hread'
  obtain ⟨c, hc⟩ : ∃ c, Cluster.ofObjects twoPods = .ok c := ⟨_, rfl⟩
  have hresult := (hpacks.ofSnapshot_result hsingle hread).trans hc
  obtain ⟨hlast, -⟩ := hfound c hresult ⟨.str "Pod", .str "a", .null⟩ rfl
  refine ⟨hpacks, hsingle, hsame, c, hresult, (hlast _).mpr ⟨[.put (podWith [])], [], rfl, ?_, by simp⟩⟩
  exact (Cluster.writes_put rfl).mpr ⟨_, rfl, rfl⟩

end StageGate.Snapshot
