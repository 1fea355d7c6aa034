import StageGate.Mismatch

/-! Why a text yields no value. -/

namespace StageGate.Yaml

inductive Refusal where
  | malformed
  /-- A scalar or key that is well formed but does not fit its type. -/
  | mismatch (m : Mismatch)
deriving DecidableEq, Repr

end StageGate.Yaml
