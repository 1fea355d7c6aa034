import StageGate.Value.Key
import StageGate.Yaml.Merge
import StageGate.Yaml.Typed

/-!
The values of documents. A document is built level by level, so of two faults the one nearer to its
root is the one that counts; only keys are built in full before the value beside them.
-/

namespace StageGate.Yaml
namespace Node

def isCollectionTag : Tag → Bool
  | .seq | .map | .set | .omap | .pairs => true
  | _ => false

mutual

/-- The text of a scalar; a mapping has the text under its `=` key. -/
def text? : Node → Option String
  | .scalar _ text => some text
  | .mapping _ es => valueText? es
  | .sequence .. | .back _ => none

def valueText? : List Entry → Option String
  | [] => none
  | (k, v) :: es =>
    match k with
    | .scalar .value _ => text? v
    | _ => valueText? es

end

/-- The value of a node whose type is not a collection. -/
def plainValue (oldRules : Bool) (tag : Tag) (n : Node) : Except Refusal Value :=
  match n.text?, n with
  | none, _ => .error .malformed
  | some text, .scalar .. => tag.valueOf oldRules text
  | some text, _ => if tag == .timestamp then .error .malformed else tag.valueOf oldRules text

/-- Sequences turn into tuples where they are keys; sets and mappings are no keys. -/
def asMappingKey : Value → Except Refusal Value
  | .list items => .ok (.tuple items)
  | .map .. | .set _ | .enclosing _ => .error .malformed
  | v => .ok v

/-- Adds an entry; the key needs to be new where `distinct` holds. -/
def addEntry (distinct : Bool) (m : Mapping) (key value : Value) : Except Refusal Mapping :=
  if key.key?.isNone then .error (.mismatch .wrongType)
  else if distinct && (m.find? key).isSome then .error .malformed
  else .ok (m.insert key value)

/-- Adds an entry of an ordered mapping. -/
def addOrdered (m : Mapping) (key value : Value) : Except Refusal Mapping :=
  if key.key?.isNone then .error (.mismatch .wrongType)
  else if (m.find? key).isSome then .error (.mismatch .repeatedEntry)
  else .ok (m ++ [(key, value)])

/-- The single entry of an item of an ordered mapping or of a list of pairs. -/
def onlyEntry : Node → Except Refusal Entry
  | .mapping _ [e] => .ok e
  | _ => .error .malformed

/-- The value of a node, each part in full before the next. -/
def value (oldRules : Bool) : Nat → Node → Except Refusal Value
  | 0, _ => .error .malformed
  | fuel + 1, n =>
    match n with
    | .back levels => .ok (.enclosing levels)
    | .scalar tag _ => plainValue oldRules tag n
    | .sequence tag items =>
      match tag with
      | .seq => do return .list (← items.mapM (value oldRules fuel))
      | .omap => do
        let m ← items.foldlM (fun m item => do
          let (k, v) ← onlyEntry item
          let k ← value oldRules fuel k
          addOrdered m k (← value oldRules fuel v)) []
        return .map true m
      | .pairs => do
        let vs ← items.mapM fun item => do
          let (k, v) ← onlyEntry item
          let k ← value oldRules fuel k
          return .tuple [k, ← value oldRules fuel v]
        return .list vs
      | .map | .set => .error .malformed
      | _ => plainValue oldRules tag n
    | .mapping tag es =>
      match tag with
      | .map | .set => do
        let (es, distinct) ← finalEntries es
        let m ← es.foldlM (fun m (k, v) => do
          let k ← asMappingKey (← value oldRules fuel k)
          addEntry distinct m k (← value oldRules fuel v)) []
        if tag == .set then return .set (m.map Prod.fst) else return .map false m
      | .seq | .omap | .pairs => .error .malformed
      | _ => plainValue oldRules tag n

/-- Builds a scalar at once and leaves a collection for the next level. -/
def visit (oldRules : Bool) (n : Node) : Except Refusal (List Node) :=
  match n with
  | .back _ => .ok []
  | .scalar tag _ | .sequence tag _ | .mapping tag _ =>
    if isCollectionTag tag then .ok [n] else (plainValue oldRules tag n).map fun _ => []

/-- Stands in for the value of a node of the next level. -/
def atOnce (oldRules : Bool) (fuel : Nat) (n : Node) : Except Refusal Value := do
  if (← visit oldRules n).isEmpty then value oldRules fuel n else return .list []

/-- Builds one collection and leaves its parts for the next level. -/
def openUp (oldRules : Bool) (fuel : Nat) : Node → Except Refusal (List Node)
  | .sequence .seq items => do return (← items.mapM (visit oldRules)).flatten
  | .sequence .omap items => do
    let (_, parts) ← items.foldlM (fun (m, parts) item => do
      let (k, v) ← onlyEntry item
      let m ← addOrdered m (← atOnce oldRules fuel k) .null
      return (m, parts ++ (← visit oldRules v))) ([], [])
    return parts
  | .sequence .pairs items => do
    let parts ← items.mapM fun item => do
      let (k, v) ← onlyEntry item
      return (← visit oldRules k) ++ (← visit oldRules v)
    return parts.flatten
  | .mapping .map es | .mapping .set es => do
    let (es, distinct) ← finalEntries es
    let (_, parts) ← es.foldlM (fun (m, parts) (k, v) => do
      let k ← asMappingKey (← value oldRules fuel k)
      let parts' ← visit oldRules v
      return (← addEntry distinct m k .null, parts ++ parts')) ([], [])
    return parts
  | _ => .error .malformed

def openLevels (oldRules : Bool) (depth : Nat) : Nat → List Node → Except Refusal Unit
  | 0, _ => .ok ()
  | _, [] => .ok ()
  | fuel + 1, ns => do
    openLevels oldRules depth fuel (← ns.mapM (openUp oldRules depth)).flatten

mutual

/-- How many levels a node has. -/
def height : Node → Nat
  | .scalar .. | .back _ => 1
  | .sequence _ items => heightItems items + 1
  | .mapping _ es => heightEntries es + 1

def heightItems : List Node → Nat
  | [] => 0
  | n :: ns => max (height n) (heightItems ns)

def heightEntries : List Entry → Nat
  | [] => 0
  | (k, v) :: es => max (max (height k) (height v)) (heightEntries es)

end

/-- The value of a document. -/
def document (oldRules : Bool) (n : Node) : Except Refusal Value := do
  let depth := n.height + 1
  openLevels oldRules depth depth (← visit oldRules n)
  value oldRules depth n

end Node

/-- The documents of a stream, each built before the next one is read. -/
def documentsFrom : Nat → Bool → NodeReader → Except Refusal (List Value)
  | 0, _, _ => .ok []
  | fuel + 1, bare, r => do
    match ← r.document? bare with
    | (none, _) => return []
    | (some n, r) =>
      let (bare, r') ← r.documentEnd
      let v ← n.document r.oldRules
      return v :: (← documentsFrom fuel bare r')

def reader (text : String) : NodeReader :=
  ⟨tokens text, [], [], false⟩

/-- All documents of a text. -/
def documents (text : String) : Except Refusal (List Value) :=
  if text.toList.all isAllowed then
    let r := reader text
    documentsFrom (r.tokens.length + 2) true r
  else .error .malformed

/-- The only document of a text, null if there is none. -/
def singleDocument (text : String) : Except Refusal Value := do
  if !text.toList.all isAllowed then .error .malformed
  else
    match ← (reader text).document? true with
    | (none, _) => return .null
    | (some n, r) =>
      let (bare, r') ← r.documentEnd
      match ← r'.document? bare with
      | (none, _) => n.document r.oldRules
      | (some _, _) => .error .malformed

end StageGate.Yaml
