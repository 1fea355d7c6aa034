import StageGate.Cluster.Store
import StageGate.Event
import StageGate.Manifest.Resource
import StageGate.Stage.Token

/-! Controls: checks that a resource is ready, and the surroundings in which they run. -/

namespace StageGate

inductive Answer where
  | ready
  | notReady
  /-- Anything else that a check may come back with. -/
  | other
deriving DecidableEq, Repr

/-- What running leaves behind, in order. -/
inductive Effect where
  | lookup (l : Lookup)
  | logged (e : Event)
  /-- A control of a stage begins; both are counted from zero. -/
  | began (stage control : Nat)
  | called (label : String)

def Effect.event? : Effect → Option Event
  | .logged e => some e
  | _ => none

def Effect.lookup? : Effect → Option Lookup
  | .lookup l => some l
  | _ => none

/-- A result, the token and the world it was reached in, and the effects on the way. -/
structure Ran (World Result : Type) where
  result : Result
  token : Token
  world : World
  effects : List Effect

/-- The clock and the cluster that controls see; a look-up may take time and may cancel the token. -/
structure Host (World : Type) where
  now : World → Rat
  get : Lookup → Token → World → Except Fault Value × Token × World

/-- Looks up a live object. -/
def Host.fetch {World : Type} (h : Host World) (l : Lookup) (t : Token) (w : World) :
    Ran World (Except Fault Value) :=
  let (result, token, world) := h.get l t w
  ⟨result, token, world, [.lookup l]⟩

/-- A check of a bundle for a managed instance. -/
structure Control (World : Type) where
  title : Option String
  run : Host World → Value → Bundle → Token → World → Ran World (Except Fault Answer)

end StageGate
