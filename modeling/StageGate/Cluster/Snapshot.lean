import StageGate.Cluster.Store
import StageGate.Manifest.Decode

/-! Snapshots: files of live objects, each a document of its own or an item of a list document. -/

namespace StageGate
namespace Snapshot

/-- The live objects of a document: the items of a list, or the document itself unless it is null. -/
def objectsOf (doc : Value) : Except Fault (List Value) :=
  match doc.entries? with
  | some es =>
    match es.get "kind" with
    | .str "List" => (Manifest.listOf (es.get "items")).mapError .mismatch
    | _ => .ok [doc]
  | none => .ok (if Manifest.isNull doc then [] else [doc])

def objects (docs : List Value) : Except Fault (List Value) := do
  return (← docs.mapM objectsOf).flatten

/-- The documents of the snapshot at a path. -/
def documents [Yaml.Reader] (files : Files.Tree) (path : String) : Except Fault (List Value) := do
  let bytes ← (files.read path).mapError fun why => .load (.snapshotUnreadable why) (some path)
  match Manifest.unmarkedTextOf? bytes with
  | none => .error (.mismatch .badEncoding)
  | some text =>
    (Yaml.Reader.documents text).mapError (Manifest.refused (.load .snapshotMalformed (some path)))

end Snapshot

/-- The cluster that documents describe. -/
def Cluster.ofDocuments (path : String) (docs : List Value) : Loaded Cluster :=
  match Snapshot.objects docs with
  | .error f => ⟨.error f, []⟩
  | .ok objects => ⟨Cluster.ofObjects objects, [.snapshotLoaded objects.length path]⟩

/-- The cluster that the snapshot at a path describes. -/
def Cluster.ofSnapshot [Yaml.Reader] (files : Files.Tree) (path : String) : Loaded Cluster :=
  let path := (Files.Path.ofText path).text
  match Snapshot.documents files path with
  | .error f => ⟨.error f, []⟩
  | .ok docs => Cluster.ofDocuments path docs

end StageGate
