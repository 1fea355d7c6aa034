import StageGate.Yaml.Node

/-!
Merge keys: the entries of a mapping once the mappings under its `<<` key are merged in. Merged entries
come first; in a list of mappings the earlier ones come last, so that they win.
-/

namespace StageGate.Yaml
namespace Node

abbrev Entry := Node × Node

def isMergeKey : Node → Bool
  | .scalar .merge _ | .sequence .merge _ | .mapping .merge _ => true
  | _ => false

/-- A key written `=` is text. -/
def asKey : Node → Node
  | .scalar .value text => .scalar .str text
  | n => n

/-- The entries other than merge keys. -/
def ownEntries (es : List Entry) : List Entry :=
  (es.filter fun e => !e.1.isMergeKey).map fun e => (e.1.asKey, e.2)

mutual

/-- What a node under a merge key contributes. -/
def contribution : Node → Except Refusal (List Entry)
  | .mapping _ es => do return (← mergedEntries es []) ++ ownEntries es
  | .sequence _ ns => contributions ns
  | .back _ => .ok []
  | .scalar .. => .error .malformed

/-- The contributions of a list of mappings, the last mapping first. -/
def contributions : List Node → Except Refusal (List Entry)
  | [] => .ok []
  | .mapping _ es :: ns => do
    let first := (← mergedEntries es []) ++ ownEntries es
    return (← contributions ns) ++ first
  | .back _ :: ns => contributions ns
  | _ :: _ => .error .malformed

/-- The entries under the merge keys; only one key may contribute any. -/
def mergedEntries : List Entry → List Entry → Except Refusal (List Entry)
  | [], acc => .ok acc
  | (k, v) :: es, acc =>
    if !k.isMergeKey then mergedEntries es acc
    else if !acc.isEmpty then .error .malformed
    else do mergedEntries es (← contribution v)

end

/-- The entries of a mapping in their final order, and whether their keys have to differ. -/
def finalEntries (es : List Entry) : Except Refusal (List Entry × Bool) := do
  let merged ← mergedEntries es []
  return (merged ++ ownEntries es, merged.isEmpty)

end Node
end StageGate.Yaml
