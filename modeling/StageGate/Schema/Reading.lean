import StageGate.Schema.Catalog

/-! Schemas written as values: `type`, `required`, `fields`, and `items`, each of which may be left out. -/

namespace StageGate
namespace Schema

def requiredOf (es : Mapping) : List String :=
  match es.get "required" with
  | .list rs => rs.filterMap fun | .str r => some r | _ => none
  | _ => []

mutual

/-- The schema that a value states; an empty one leaves everything open. -/
def ofValue : Value → Schema
  | .map _ es =>
    match Mapping.get es "type" with
    | .str "object" => .object (requiredOf es) (fieldsOf es)
    | .str "map" => .map
    | .str "array" => .array (itemsOf es)
    | .str "string" => .string
    | .str "boolean" => .boolean
    | _ => .any
  | _ => .any

/-- The schemas under `fields`. -/
def fieldsOf : Mapping → List (Value × Schema)
  | [] => []
  | (.str "fields", .map _ fs) :: _ => ofEntries fs
  | _ :: es => fieldsOf es

/-- The schema under `items`. -/
def itemsOf : Mapping → Schema
  | [] => .any
  | (.str "items", v) :: _ => ofValue v
  | _ :: es => itemsOf es

def ofEntries : Mapping → List (Value × Schema)
  | [] => []
  | (k, v) :: es => (k, ofValue v) :: ofEntries es

end
end Schema

/-- The catalog that a value states; a kind whose schema is empty is not in it. -/
def SchemaCatalog.ofValue (v : Value) : SchemaCatalog :=
  match v with
  | .map _ es => es.filterMap fun (kind, s) =>
    match s with
    | .map _ fs => if fs.isEmpty then none else some (kind, ⟨Schema.requiredOf fs, Schema.fieldsOf fs⟩)
    | _ => none
  | _ => []

end StageGate
