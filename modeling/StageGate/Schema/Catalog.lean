import StageGate.Mismatch
import StageGate.Schema.Basic

/-! Catalogs of schemas by kind, and the verdict on a document. -/

namespace StageGate

/-- The schema of each kind; a kind may also stand for itself as any other key. -/
abbrev SchemaCatalog := List (Value × DocumentSchema)

/-- Why a document is rejected. -/
inductive Rejection where
  | rootNotMapping
  | missingField (name : String)
  | versionNotText
  | unknownKind (kind : Value)
  | fault (f : Schema.Fault)

def Rejection.message : Rejection → String
  | .rootNotMapping => "Manifest root is not a mapping."
  | .missingField name => "Missing required top-level field '" ++ name ++ "'."
  | .versionNotText => "Field 'apiVersion' must be a string."
  | .unknownKind kind => "Kind '" ++ kind.display ++ "' is outside the schema catalog."
  | .fault f => f.message

/-- Whether the message can be written. -/
def Rejection.isWritable : Rejection → Bool
  | .unknownKind kind => kind.isWritable
  | .fault f => f.place.isWritable
  | .rootNotMapping | .missingField _ | .versionNotText => true

namespace SchemaCatalog

/-- The fields that every document has to have. -/
def coreFields : List String := ["apiVersion", "kind", "metadata"]

def acceptance : String := "Manifest passes structural integrity check."

def find? (c : SchemaCatalog) (kind : Value) : Option DocumentSchema :=
  (List.find? (fun e => e.1.sameKey kind) c).map Prod.snd

/-- The reason to reject a document, none if it is valid; a kind that is no key fits no catalog. -/
def validate (c : SchemaCatalog) (doc : Value) : Except Mismatch (Option Rejection) :=
  match doc.entries? with
  | none => .ok (some .rootNotMapping)
  | some es =>
    match coreFields.find? fun f => !es.has f with
    | some f => .ok (some (.missingField f))
    | none =>
      let kind := es.get "kind"
      if !(es.get "apiVersion").isStr then .ok (some .versionNotText)
      else if kind.key?.isNone then .error .wrongType
      else
        match c.find? kind with
        | none => .ok (some (.unknownKind kind))
        | some s => .ok ((s.check doc).map .fault)

/-- The verdict with its message; a message that cannot be written is a bad value. -/
def verdict (c : SchemaCatalog) (doc : Value) : Except Mismatch (Option Rejection) := do
  match ← c.validate doc with
  | none => return none
  | some why => if why.isWritable then return some why else .error .badValue

section
variable {c : SchemaCatalog} {doc : Value} {why : Rejection} {m : Mismatch}

theorem verdict_eq_none : c.verdict doc = .ok none ↔ c.validate doc = .ok none := by
  unfold verdict
  rcases c.validate doc with m | _ | why
  · simp [bind, Except.bind]
  · simp [bind, Except.bind, pure, Except.pure]
  · cases hw : why.isWritable <;> simp [bind, Except.bind, pure, Except.pure, hw]

theorem verdict_eq_some : c.verdict doc = .ok (some why) ↔
    c.validate doc = .ok (some why) ∧ why.isWritable = true := by
  unfold verdict
  rcases c.validate doc with m | _ | why'
  · simp [bind, Except.bind]
  · simp [bind, Except.bind, pure, Except.pure]
  · cases hw : why'.isWritable <;> simp [bind, Except.bind, pure, Except.pure, hw]
    · rintro rfl
      exact hw
    · rintro rfl
      exact hw

theorem verdict_eq_error : c.verdict doc = .error m ↔
    c.validate doc = .error m ∨
      m = .badValue ∧ ∃ why, c.validate doc = .ok (some why) ∧ why.isWritable = false := by
  unfold verdict
  rcases c.validate doc with m' | _ | why
  · simp [bind, Except.bind]
  · simp [bind, Except.bind, pure, Except.pure]
  · cases hw : why.isWritable <;> simp [bind, Except.bind, pure, Except.pure, hw, @eq_comm _ m]

end
end SchemaCatalog

/-! The schemas of the supported kinds. -/

namespace Schema

def field (name : String) (s : Schema) : Value × Schema :=
  (.str name, s)

def metadata : Schema :=
  .object ["name"] [
    field "name" .string, field "namespace" .string, field "labels" .map, field "annotations" .map]

def rules : Schema :=
  .array (.object [] [
    field "apiGroups" (.array .any), field "resources" (.array .any), field "verbs" (.array .any)])

def free : DocumentSchema :=
  ⟨[], [field "metadata" metadata]⟩

def role : DocumentSchema :=
  ⟨[], [field "metadata" metadata, field "rules" rules]⟩

def binding : DocumentSchema :=
  ⟨["roleRef"], [
    field "metadata" metadata,
    field "roleRef" (.object ["kind", "name"] [
      field "kind" .string, field "name" .string, field "apiGroup" .string]),
    field "subjects" (.array (.object ["kind", "name"] []))]⟩

def configMap : DocumentSchema :=
  ⟨[], [field "metadata" metadata, field "data" .map]⟩

def daemonSet : DocumentSchema :=
  ⟨["spec"], [
    field "metadata" metadata,
    field "spec" (.object ["template"] [
      field "selector" (.object [] []), field "template" (.object [] [])])]⟩

def pod : DocumentSchema :=
  ⟨["spec"], [
    field "metadata" metadata,
    field "spec" (.object ["containers"] [
      field "containers" (.array (.object ["name"] []))])]⟩

def service : DocumentSchema :=
  ⟨[], [
    field "metadata" metadata,
    field "spec" (.object [] [field "ports" (.array .any), field "selector" .map])]⟩

def constraints : DocumentSchema :=
  ⟨[], [
    field "metadata" metadata, field "users" (.array .any),
    field "allowPrivilegedContainer" .boolean]⟩

end Schema

/-- The catalog in force unless another one is given. -/
def SchemaCatalog.standard : SchemaCatalog := [
  (.str "Namespace", Schema.free), (.str "ServiceAccount", Schema.free),
  (.str "Role", Schema.role), (.str "ClusterRole", Schema.role),
  (.str "RoleBinding", Schema.binding), (.str "ClusterRoleBinding", Schema.binding),
  (.str "ConfigMap", Schema.configMap), (.str "DaemonSet", Schema.daemonSet), (.str "Pod", Schema.pod),
  (.str "Service", Schema.service), (.str "SecurityContextConstraints", Schema.constraints)]

end StageGate
