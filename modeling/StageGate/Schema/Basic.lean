import StageGate.Value.Key
import StageGate.Value.Text

/-!
Schemas of documents, and the first place at which a document departs from one. A mapping is looked
through for missing keys first, then entry by entry, each in full before the next.
-/

namespace StageGate

inductive Schema where
  | any
  | string
  | boolean
  /-- A mapping of strings to strings, or null. -/
  | map
  | array (items : Schema)
  | object (required : List String) (fields : List (Value × Schema))
deriving Inhabited

namespace Schema

inductive Step where
  | key (k : Value)
  | index (i : Nat)
deriving Inhabited

/-- A place inside a document, from its root. -/
abbrev Location := List Step

def Step.text : Step → String
  | .key k => k.display
  | .index i => "[" ++ toString i ++ "]"

/-- Keys are separated by dots, indices stand in brackets. -/
def Location.text : Location → String
  | [] => ""
  | [s] => s.text
  | s :: .key k :: rest => s.text ++ "." ++ text (.key k :: rest)
  | s :: .index i :: rest => s.text ++ text (.index i :: rest)

def Step.isWritable : Step → Bool
  | .key k => k.isWritable
  | .index _ => true

/-- Whether all keys on the way have a text. -/
def Location.isWritable (l : Location) : Bool :=
  l.all Step.isWritable

inductive Flaw where
  | missing
  | notObject
  | notMap
  | notTextEntry
  | notList
  | notString
  | notBoolean
deriving DecidableEq, Repr

structure Fault where
  place : Location
  flaw : Flaw

def Fault.message (f : Fault) : String :=
  let path := "'" ++ f.place.text ++ "'"
  match f.flaw with
  | .missing => "Field " ++ path ++ " is required but missing."
  | .notObject => path ++ " must be a map/object."
  | .notMap => path ++ " must be a map of strings."
  | .notTextEntry => path ++ " must be a string value."
  | .notList => path ++ " must be a list/sequence."
  | .notString => path ++ " must be a string."
  | .notBoolean => path ++ " must be a boolean."

/-- The first required key that a mapping lacks. -/
def firstMissing (required : List String) (place : Location) (es : Mapping) : Option Fault :=
  (required.find? fun r => !es.has r).map fun r => ⟨place ++ [.key (.str r)], .missing⟩

/-- The first entry of a mapping that is not text under a textual key. -/
def firstNotText (place : Location) (es : Mapping) : Option Fault :=
  (List.find? (fun e => !(e.1.isStr && e.2.isStr)) es).map fun e =>
    ⟨place ++ [.key e.1], .notTextEntry⟩

mutual

/-- The first fault of the value at a place. -/
def check : Schema → Location → Value → Option Fault
  | .any, _, _ => none
  | .string, place, v => if v.isStr then none else some ⟨place, .notString⟩
  | .boolean, place, v =>
    match v with
    | .bool _ => none
    | _ => some ⟨place, .notBoolean⟩
  | .map, place, v =>
    match v, v.entries? with
    | .null, _ => none
    | _, some es => firstNotText place es
    | _, none => some ⟨place, .notMap⟩
  | .array items, place, v =>
    match v.items? with
    | some vs => vs.zipIdx.findSome? fun (item, i) => check items (place ++ [.index i]) item
    | none => some ⟨place, .notList⟩
  | .object required fields, place, v =>
    match v.entries? with
    | some es =>
      firstMissing required place es <|>
        es.findSome? fun (k, v) => checkField fields (place ++ [.key k]) k v
    | none => some ⟨place, .notObject⟩

/-- The first fault of a value under a key; keys without a schema are free. -/
def checkField : List (Value × Schema) → Location → Value → Value → Option Fault
  | [], _, _, _ => none
  | (k, s) :: rest, place, key, v =>
    if k.sameKey key then check s place v else checkField rest place key v

end

end Schema

/-- A schema for whole documents. -/
structure DocumentSchema where
  required : List String
  fields : List (Value × Schema)

def DocumentSchema.check (s : DocumentSchema) (v : Value) : Option Schema.Fault :=
  (Schema.object s.required s.fields).check [] v

end StageGate
