import StageGate.Fault
import StageGate.Value.Key

/-!
The in-memory cluster: live objects by kind, namespace, and name. An empty namespace is the same as
none, and the last object put under a key is the one that counts.
-/

namespace StageGate

/-- What identifies a live object. -/
structure Lookup where
  kind : Value
  name : Value
  namespaceName : Value

structure ObjectKey where
  kind : Key
  namespaceName : Option Key
  name : Key
deriving DecidableEq

namespace Lookup

/-- The key that a lookup asks for; lists and mappings are no part of any key. -/
def key? (l : Lookup) : Option ObjectKey := do
  let kind ← l.kind.key?
  let name ← l.name.key?
  if l.namespaceName.isPresent then
    return ⟨kind, some (← l.namespaceName.key?), name⟩
  else return ⟨kind, none, name⟩

def isWritable (l : Lookup) : Bool :=
  l.kind.isWritable && l.name.isWritable && l.namespaceName.isWritable

/-- The fault of finding nothing; a look-up that cannot be written is a bad value. -/
def absence (l : Lookup) : Fault :=
  if l.isWritable then .notFound l.kind l.name l.namespaceName else .mismatch .badValue

end Lookup

structure Cluster where
  objects : List (ObjectKey × Value)

namespace Cluster

def empty : Cluster := ⟨[]⟩

def size (c : Cluster) : Nat :=
  c.objects.length

def find? (c : Cluster) (key : ObjectKey) : Option Value :=
  (c.objects.find? fun e => e.1 == key).map Prod.snd

def erase (c : Cluster) (key : ObjectKey) : Cluster :=
  ⟨c.objects.filter fun e => e.1 != key⟩

def insert (c : Cluster) (key : ObjectKey) (object : Value) : Cluster :=
  ⟨(c.erase key).objects ++ [(key, object)]⟩

/-- What a live object is found under. -/
def lookupOf (object : Value) : Except Fault Lookup := do
  match object.entries? with
  | none => .error ObjectCause.notMapping.fault
  | some es =>
    if !es.has "kind" then .error ObjectCause.notMapping.fault
    else
      let kind := es.get "kind"
      let fields := es.get "metadata"
      match if fields.isPresent then fields.entries? else some [] with
      | none => .error (ObjectCause.badMetadata kind).fault
      | some ms =>
        let name := ms.get "name"
        if name.isPresent then return ⟨kind, name, ms.get "namespace"⟩
        else .error (ObjectCause.nameless kind).fault

def keyOf (l : Lookup) : Except Fault ObjectKey :=
  match l.key? with
  | some key => .ok key
  | none => .error (.mismatch .wrongType)

def put (c : Cluster) (object : Value) : Except Fault Cluster := do
  return c.insert (← keyOf (← lookupOf object)) object

/-- Takes out what lies under the key of a look-up. Where there is nothing to take out, no key is asked
for either. -/
def delete (c : Cluster) (l : Lookup) : Except Fault Cluster :=
  if c.objects.isEmpty then .ok c else (keyOf l).map c.erase

def get (c : Cluster) (l : Lookup) : Except Fault Value := do
  match c.find? (← keyOf l) with
  | some object => return object
  | none => .error l.absence

def ofObjects (objects : List Value) : Except Fault Cluster :=
  objects.foldlM put empty

end Cluster
end StageGate
