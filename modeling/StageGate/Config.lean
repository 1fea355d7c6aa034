import StageGate.Reconcile.Basic

/-! Configuration: where the stage directories are and in which order they are applied. -/

namespace StageGate

structure Config where
  assetsDir : String
  stages : List String
  instanceKind : String
  /-- Seconds, or null. -/
  timeout : Value

namespace Config

def standard : Config := ⟨"/opt/nfd", ["master", "worker"], "NodeFeatureDiscovery", .null⟩

/-- The stages with their directories, in the order in which they are applied. -/
def stageDirs (c : Config) : List (String × String) :=
  c.stages.map fun s => (s, ((Files.Path.ofText c.assetsDir).join (.ofText s)).text)

/-- The settings that a configuration may hold. -/
inductive Setting where
  | assetsDir
  | stages
  | instanceKind
  | timeout
deriving DecidableEq, Repr

namespace Setting

def all : List Setting := [.assetsDir, .stages, .instanceKind, .timeout]

def key : Setting → String
  | .assetsDir => "assetsDir"
  | .stages => "stages"
  | .instanceKind => "instanceKind"
  | .timeout => "timeoutSeconds"

def ofKey? : Value → Option Setting
  | .str s => all.find? fun x => x.key == s
  | _ => none

/-- Whether a value has a type that the setting may have. -/
def accepts : Setting → Value → Bool
  | .assetsDir, .str _ | .instanceKind, .str _ => true
  | .stages, .list _ => true
  | .timeout, .int _ | .timeout, .float _ => true
  | _, _ => false

end Setting

/-- The first entry that is unknown or has the wrong type. -/
def firstBadEntry (es : Mapping) : Option ConfigCause :=
  es.findSome? fun (k, v) =>
    match Setting.ofKey? k with
    | none => some (.unknownKey k)
    | some x => if x.accepts v then none else some (.wrongType x.key v.typeWord)

/-- The text of a stage name; it has to have some. -/
def stageName? : Value → Option String
  | .str s => if s == "" then none else some s
  | _ => none

/-- The stages that a list names. -/
def stagesOf (vs : List Value) : Except ConfigCause (List String) :=
  match vs.mapM stageName? with
  | none | some [] => .error .noStages
  | some names => if names.Nodup then .ok names else .error .repeatedStage

def textOr (default : String) : Option Value → String
  | some (.str s) => s
  | _ => default

/-- The configuration that a mapping states. -/
def ofEntries (es : Mapping) : Except ConfigCause Config :=
  match firstBadEntry es with
  | some why => .error why
  | none => do
    let stages ← match es.get? Setting.stages.key with
      | some v => stagesOf (v.items?.getD [])
      | none => .ok standard.stages
    return {
      assetsDir := textOr standard.assetsDir (es.get? Setting.assetsDir.key)
      stages
      instanceKind := textOr standard.instanceKind (es.get? Setting.instanceKind.key)
      timeout := es.get Setting.timeout.key }

def ofValue (v : Value) : Except Fault Config :=
  match v.entries? with
  | none => .error ConfigCause.rootNotMapping.fault
  | some es => (ofEntries es).mapError ConfigCause.fault

/-- The value of a configuration text; anything that counts as absent is an empty mapping. -/
def valueOf [Yaml.Reader] (path : String) (text : String) : Except Fault Value :=
  match Yaml.Reader.only text with
  | .ok v => .ok (v.orElse (.map false []))
  | .error why => .error (Manifest.refused (.config (.malformed path)) why)

/-- The configuration in a file. -/
def ofFile [Yaml.Reader] (files : Files.Tree) (path : String) : Except Fault Config := do
  let bytes ← (files.read path).mapError fun why => .config (.unreadable path why)
  match Manifest.textOf? bytes with
  | none => .error (.mismatch .badEncoding)
  | some text =>
    let v ← valueOf path text
    ofValue v

/-- The settings of reconciles in a world that holds the files. -/
def settings {World : Type} (c : Config) (source : StageSource World) : Settings World :=
  ⟨source, c.instanceKind, c.timeout⟩

end Config
end StageGate
