import StageGate.Files.Tree
import StageGate.Manifest.Kind
import StageGate.Schema.Catalog

/-! Faults: why an operation fails, by cause, with the words and families that reports use for them. -/

namespace StageGate

/-- Why a manifest cannot be decoded. -/
inductive DecodeCause where
  | badEncoding
  | malformed
  | noDocument
  | severalDocuments (count : Nat)
  | rootNotMapping
  | noKind
  | rejected (kind : Kind) (why : Rejection)
  | unfit (kind : Kind) (why : Mismatch)
  | stated (message : String)

/-- Why a manifest directory, a manifest, or a snapshot cannot be loaded. -/
inductive LoadCause where
  | noDirectory
  | unlistable (why : Files.AccessFault)
  | unreadable (why : Files.AccessFault)
  | snapshotUnreadable (why : Files.AccessFault)
  | snapshotMalformed
  | stated (message : String)

/-- Why a configuration is refused. -/
inductive ConfigCause where
  | unreadable (path : String) (why : Files.AccessFault)
  | malformed (path : String)
  | rootNotMapping
  | unknownKey (key : Value)
  | wrongType (key : String) (typeWord : String)
  | noStages
  | repeatedStage
  | stated (message : String)

/-- Why a live object cannot be kept. -/
inductive ObjectCause where
  | notMapping
  | badMetadata (kind : Value)
  | nameless (kind : Value)

inductive Cancellation where
  | before (place : String)
  | stated (message : String)

/-- Why a stepper refuses to step. -/
inductive Misuse where
  | idle
  | converged
  | stated (message : String)

/-- The kinds of faults that a cluster or a control may report on its own. -/
inductive Report where
  | connection
  | timeout
  | permission
  | runtime
  | badValue
  /-- A kind of their own, by its title. -/
  | other (title : String)
deriving DecidableEq, Repr

inductive Fault where
  | general (message : String)
  | config (why : ConfigCause)
  | decode (why : DecodeCause) (source : Option String)
  | load (why : LoadCause) (source : Option String)
  | notReady (stage kind : String) (name : Value)
  | cancelled (why : Cancellation)
  | misuse (why : Misuse)
  | notFound (kind name namespaceName : Value)
  | reported (report : Report) (message : String)
  | badIdentity (text : String)
  | badObject (why : ObjectCause)
  | mismatch (why : Mismatch)
  /-- A look-up of a file or directory that fails, where it is not told of as anything else. -/
  | access (why : Files.AccessFault)

/-! Causes that name a value: where it has no text, the fault is that of a bad value. -/

def ConfigCause.fault (why : ConfigCause) : Fault :=
  match why with
  | .unknownKey key => if key.isWritable then .config why else .mismatch .badValue
  | _ => .config why

def ObjectCause.fault (why : ObjectCause) : Fault :=
  match why with
  | .notMapping => .badObject why
  | .badMetadata kind | .nameless kind =>
    if kind.isWritable then .badObject why else .mismatch .badValue

/-! Words. -/

/-- What is said of a text that is not well formed. -/
def Yaml.malformedText : String := "<YAMLError>"

def DecodeCause.message : DecodeCause → String
  | .badEncoding => "Manifest is not valid UTF-8: " ++ Mismatch.badEncoding.message
  | .malformed => "Malformed YAML: " ++ Yaml.malformedText
  | .noDocument => "Manifest contains no document"
  | .severalDocuments n => "Expected one document per file, found " ++ toString n
  | .rootNotMapping => "Manifest root is not a mapping"
  | .noKind => "Manifest has no top-level 'kind'"
  | .rejected kind why => kind.name ++ ": " ++ why.message
  | .unfit kind why => kind.name ++ ": " ++ why.message
  | .stated message => message

def LoadCause.message : LoadCause → String
  | .noDirectory => "Manifest directory does not exist"
  | .unlistable why => "Unable to scan manifest directory: " ++ why.message
  | .unreadable why => "Unable to read manifest: " ++ why.message
  | .snapshotUnreadable why => "Unable to read cluster snapshot: " ++ why.message
  | .snapshotMalformed => "Malformed cluster snapshot: " ++ Yaml.malformedText
  | .stated message => message

def ConfigCause.message : ConfigCause → String
  | .unreadable path why => "Unable to read config " ++ path ++ ": " ++ why.message
  | .malformed path => "Malformed config " ++ path ++ ": " ++ Yaml.malformedText
  | .rootNotMapping => "Config root must be a mapping"
  | .unknownKey key => "Unknown config key '" ++ key.display ++ "'"
  | .wrongType key word => "Config key '" ++ key ++ "' has invalid type " ++ word
  | .noStages => "'stages' must be a non-empty list of directory names"
  | .repeatedStage => "'stages' must not repeat a directory"
  | .stated message => message

def ObjectCause.message : ObjectCause → String
  | .notMapping => "Live objects must be mappings with a 'kind'"
  | .badMetadata kind => "Live " ++ kind.display ++ " object has a non-mapping metadata"
  | .nameless kind => "Live " ++ kind.display ++ " object has no metadata.name"

def Cancellation.message : Cancellation → String
  | .before place => "Reconcile cancelled" ++ if place == "" then "" else " before " ++ place
  | .stated message => message

def Misuse.message : Misuse → String
  | .idle => "step() called before initialize()"
  | .converged => "step() called on a converged stepper"
  | .stated message => message

def Report.title : Report → String
  | .connection => "ConnectionError"
  | .timeout => "TimeoutError"
  | .permission => "PermissionError"
  | .runtime => "RuntimeError"
  | .badValue => "ValueError"
  | .other title => title

namespace Fault

/-- A message that names its source, if there is one. -/
def withSource (source : Option String) (message : String) : String :=
  match source with
  | none => message
  | some s => if s == "" then message else s ++ ": " ++ message

/-- The name of an object, or a word for having none. -/
def nameText (name : Value) : String :=
  if name.isPresent then name.display else "<unnamed>"

/-- An object's name behind its namespace, if it has one. -/
def placeText (name namespaceName : Value) : String :=
  if namespaceName.isPresent then namespaceName.display ++ "/" ++ name.display else name.display

def message : Fault → String
  | .general message => message
  | .config why => why.message
  | .decode why source => withSource source why.message
  | .load why source => withSource source why.message
  | .notReady stage kind name =>
    "ResourceNotReady: " ++ kind ++ "/" ++ nameText name ++ " in stage '" ++ stage ++ "'"
  | .cancelled why => why.message
  | .misuse why => why.message
  | .notFound kind name ns => kind.display ++ " '" ++ placeText name ns ++ "' not found"
  | .reported _ message => message
  | .badIdentity text => "Invalid request identity '" ++ text ++ "', expected NAMESPACE/NAME"
  | .badObject why => why.message
  | .mismatch why => why.message
  | .access why => why.message

def title : Fault → String
  | .general _ => "KubeStageError"
  | .config _ => "ConfigError"
  | .decode .. => "DecodeError"
  | .load .. => "ManifestLoadError"
  | .notReady .. => "NotReadyError"
  | .cancelled _ => "ReconcileCancelled"
  | .misuse _ => "StepperError"
  | .notFound .. => "NotFoundError"
  | .reported report _ => report.title
  | .badIdentity _ | .badObject _ => Mismatch.badValue.title
  | .mismatch why => why.title
  | .access why => why.failure.title

/-- The title of the fault and of the wider families it belongs to, nearest first. -/
def family : Fault → List String
  | .general _ => ["KubeStageError"]
  | .load .. => ["ManifestLoadError", "DecodeError", "KubeStageError"]
  | .notFound .. => ["NotFoundError"]
  | .reported .. | .badIdentity _ | .badObject _ | .mismatch _ | .access _ => []
  | f => [f.title, "KubeStageError"]

/-- Faults of loading manifests or snapshots. -/
def isDecode : Fault → Bool
  | .decode .. | .load .. => true
  | _ => false

def isConfig : Fault → Bool
  | .config _ => true
  | _ => false

def isNotFound : Fault → Bool
  | .notFound .. => true
  | _ => false

def isCancelled : Fault → Bool
  | .cancelled _ => true
  | _ => false

def isNotReady : Fault → Bool
  | .notReady .. => true
  | _ => false

/-- Faults of a value that has the right type and a wrong content. -/
def isBadValue : Fault → Bool
  | .badIdentity _ | .badObject _ | .reported .badValue _ => true
  | .mismatch .badValue | .mismatch .badEncoding => true
  | _ => false

/-- The source that a fault of loading names. -/
def source? : Fault → Option String
  | .decode _ source | .load _ source => source
  | _ => none

end Fault
end StageGate
