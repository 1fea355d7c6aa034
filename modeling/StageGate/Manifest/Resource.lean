import StageGate.Manifest.Kind
import StageGate.Value.Key

/-! Resources: what a manifest of a supported kind declares, and bundles of one resource per kind. -/

namespace StageGate

structure Metadata where
  name : Value
  namespaceName : Value
  labels : Mapping
  annotations : Mapping

/-- What a resource declares beside its metadata. -/
inductive Content where
  | bare
  | rules (rules : List Value)
  | binding (roleRef : Mapping) (subjects : List Value)
  | data (data : Mapping)
  | spec (spec : Mapping)
  | constraints (users : List Value) (privileged : Bool)

structure Resource where
  kind : Kind
  className : String
  apiVersion : Value
  metadata : Metadata
  content : Content
  /-- The document that declares the resource. -/
  document : Value

namespace Resource

def name (r : Resource) : Value :=
  r.metadata.name

end Resource

/-! Equality, which takes no notice of the document. -/

def Metadata.same (m n : Metadata) : Bool :=
  m.name.same n.name && m.namespaceName.same n.namespaceName && m.labels.same n.labels &&
    m.annotations.same n.annotations

def Content.same : Content → Content → Bool
  | .bare, .bare => true
  | .rules xs, .rules ys => Value.sameItems xs ys
  | .binding r xs, .binding s ys => Mapping.same r s && Value.sameItems xs ys
  | .data d, .data e => Mapping.same d e
  | .spec d, .spec e => Mapping.same d e
  | .constraints xs p, .constraints ys q => Value.sameItems xs ys && p == q
  | _, _ => false

def Resource.same (r s : Resource) : Bool :=
  r.className == s.className && r.kind == s.kind && r.apiVersion.same s.apiVersion &&
    r.metadata.same s.metadata && r.content.same s.content

/-- At most one resource of each kind. -/
structure Bundle where
  get : Kind → Option Resource

namespace Bundle

def empty : Bundle := ⟨fun _ => none⟩

/-- Puts a resource into the slot of its kind, in place of an earlier one. -/
def put (b : Bundle) (r : Resource) : Bundle :=
  ⟨fun k => if k = r.kind then some r else b.get k⟩

theorem get_put_same (b : Bundle) (r : Resource) : (b.put r).get r.kind = some r := by
  simp [put]

theorem get_put_other (b : Bundle) (r : Resource) {k : Kind} (h : k ≠ r.kind) :
    (b.put r).get k = b.get k := by
  simp [put, h]

end Bundle
end StageGate
