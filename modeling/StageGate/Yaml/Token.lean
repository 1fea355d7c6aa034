import StageGate.Yaml.Refusal

/-! Tokens of a text: structure marks, properties of nodes, and scalars. -/

namespace StageGate.Yaml

inductive Directive where
  | version (major minor : Nat)
  | tagPrefix (handle : String) (text : String)
  | other
deriving DecidableEq, Repr

inductive Token where
  | streamEnd
  | directive (d : Directive)
  | documentStart
  | documentEnd
  | blockSequenceStart
  | blockMappingStart
  | blockEnd
  | flowSequenceStart
  | flowSequenceEnd
  | flowMappingStart
  | flowMappingEnd
  | blockEntry
  | flowEntry
  | key
  | value
  | reference (name : String)
  | anchor (name : String)
  | tag (handle : Option String) (suffix : String)
  | scalar (text : String) (isPlain : Bool)
  /-- The text cannot be split into tokens from here on. -/
  | invalid (why : Refusal)
deriving DecidableEq, Repr

structure Placed where
  token : Token
  line : Nat
deriving DecidableEq, Repr

end StageGate.Yaml
