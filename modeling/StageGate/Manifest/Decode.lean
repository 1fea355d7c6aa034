import StageGate.Event
import StageGate.Manifest.Resource
import StageGate.Text.Blank
import StageGate.Yaml.Reader

/-! Decoding: from the bytes of a manifest to the resource it declares. -/

namespace StageGate
namespace Manifest

/-! Fields of documents. -/

/-- The two parts of an entry that is written as a sequence. -/
def pairOf (v : Value) : Except Mismatch (Value × Value) :=
  match v.elements? with
  | none => .error .wrongType
  | some [k, w] => if k.key?.isSome then .ok (k, w) else .error .wrongType
  | some _ => .error .badValue

/-- A field that holds a mapping, or entries as pairs; absent fields hold nothing. -/
def mappingOf (v : Value) : Except Mismatch Mapping :=
  if !v.isPresent then .ok []
  else
    match v.entries?, v.elements? with
    | some es, _ => .ok es
    | none, none => .error .wrongType
    | none, some vs => vs.foldlM (fun m v => do let (k, w) ← pairOf v; return m.insert k w) []

/-- A field that holds a list, or anything else that has elements. -/
def listOf (v : Value) : Except Mismatch (List Value) :=
  if !v.isPresent then .ok []
  else
    match v.elements? with
    | some vs => .ok vs
    | none => .error .wrongType

/-- The entries of a field that may be absent and holds a mapping otherwise. -/
def membersOf (v : Value) : Except Mismatch Mapping :=
  if !v.isPresent then .ok []
  else
    match v.entries? with
    | some es => .ok es
    | none => .error .noSuchMember

def metadataOf (doc : Mapping) : Except Mismatch Metadata := do
  let fields ← membersOf (doc.get "metadata")
  let labels ← mappingOf (fields.get "labels")
  let annotations ← mappingOf (fields.get "annotations")
  return ⟨fields.get "name", fields.get "namespace", labels, annotations⟩

def contentOf (kind : Kind) (doc : Mapping) : Except Mismatch Content :=
  match kind with
  | .nameSpace | .serviceAccount => .ok .bare
  | .role | .clusterRole => (listOf (doc.get "rules")).map .rules
  | .roleBinding | .clusterRoleBinding => do
    let roleRef ← mappingOf (doc.get "roleRef")
    return .binding roleRef (← listOf (doc.get "subjects"))
  | .configMap => (mappingOf (doc.get "data")).map .data
  | .daemonSet | .pod | .service => (mappingOf (doc.get "spec")).map .spec
  | .securityConstraints => do
    let users ← listOf (doc.get "users")
    return .constraints users (doc.get "allowPrivilegedContainer").isPresent

def resourceOf (kind : Kind) (doc : Value) (es : Mapping) : Except Mismatch Resource := do
  let metadata ← metadataOf es
  return ⟨kind, kind.className, es.get "apiVersion", metadata, ← contentOf kind es, doc⟩

/-! Documents. -/

inductive Decoded where
  /-- A resource, for the slot of a bundle. -/
  | recognized (slot : String) (r : Resource)
  | unrecognized (kind : String)

/-- What decoding leaves in the log. -/
def Decoded.events (source : Option String) : Decoded → List Event
  | .recognized _ r => [.decoded r.kind r.name source]
  | .unrecognized _ => []

/-- The kind at the root of a document, without the blanks around it. -/
def kindOf (doc : Value) : Except DecodeCause String :=
  match doc.entries? with
  | none => .error .rootNotMapping
  | some es =>
    match es.get "kind" with
    | .str s => if Text.strip s == "" then .error .noKind else .ok (Text.strip s)
    | _ => .error .noKind

/-- A mismatch of a document with its kind; what has no such member at all is left as it is. -/
def unfit (source : Option String) (kind : Kind) : Mismatch → Fault
  | .wrongType => .decode (.unfit kind .wrongType) source
  | .badValue => .decode (.unfit kind .badValue) source
  | m => .mismatch m

def decodeDocument (catalog : SchemaCatalog) (source : Option String) (doc : Value) :
    Except Fault Decoded := do
  let name ← (kindOf doc).mapError fun why => .decode why source
  match Kind.ofName? name with
  | none => return .unrecognized name
  | some kind =>
    match ← (catalog.verdict doc).mapError .mismatch with
    | some why => .error (.decode (.rejected kind why) source)
    | none =>
      let r ← (resourceOf kind doc (doc.entries?.getD [])).mapError (unfit source kind)
      -- The log names the resource.
      if r.name.isWritable then return .recognized kind.slotName r else .error (.mismatch .badValue)

def isNull : Value → Bool
  | .null => true
  | _ => false

/-- Decodes the only document of a manifest that is not null. -/
def decodeDocuments (catalog : SchemaCatalog) (source : Option String) (docs : List Value) :
    Except Fault Decoded :=
  match docs.filter (!isNull ·) with
  | [] => .error (.decode .noDocument source)
  | [doc] => decodeDocument catalog source doc
  | docs => .error (.decode (.severalDocuments docs.length) source)

/-! Bytes. -/

/-- The byte order mark that a text may start with. -/
def byteOrderMark : List UInt8 := [0xEF, 0xBB, 0xBF]

/-- The text of UTF-8 bytes. -/
def textOf? (bytes : List UInt8) : Option String :=
  String.fromUTF8? ⟨bytes.toArray⟩

/-- The text of UTF-8 bytes without a byte order mark in front. -/
def unmarkedTextOf? (bytes : List UInt8) : Option String :=
  textOf? (if bytes.take 3 == byteOrderMark then bytes.drop 3 else bytes)

/-- A refusal to read the documents; what does not fit the type of a scalar is left as it is. -/
def refused (malformed : Fault) : Yaml.Refusal → Fault
  | .malformed => malformed
  | .mismatch m => .mismatch m

def documentsOf [Yaml.Reader] (source : Option String) (bytes : List UInt8) : Except Fault (List Value) :=
  match unmarkedTextOf? bytes with
  | none => .error (.decode .badEncoding source)
  | some text => (Yaml.Reader.documents text).mapError (refused (.decode .malformed source))

/-- Decodes a manifest. -/
def decode [Yaml.Reader] (catalog : SchemaCatalog) (source : Option String) (bytes : List UInt8) :
    Except Fault Decoded := do
  decodeDocuments catalog source (← documentsOf source bytes)

end Manifest
end StageGate
