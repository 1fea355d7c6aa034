import StageGate.Fault
import StageGate.Identity

/-! Events that are worth a record in the log. -/

namespace StageGate

inductive Level where
  | debug
  | info
  | warning
  | error
deriving DecidableEq, Repr

def Level.text : Level → String
  | .debug => "DEBUG"
  | .info => "INFO"
  | .warning => "WARNING"
  | .error => "ERROR"

inductive Event where
  | decoded (kind : Kind) (name : Value) (source : Option String)
  | skipped (kind : String) (file : String)
  | replaced (stage : String) (kind : Kind) (file : String)
  | built (stage directory : String) (controls skipped : Nat)
  | snapshotLoaded (objects : Nat) (path : String)
  | notThereYet (kind : Kind) (name : Value)
  | rolledOut (name : Value) (ready desired unavailable : Int)
  | stageReady (owner : Option String) (stage : String) (cursor total : Nat)
  | catalogReady (stages : List String)
  | fetching (identity : Identity) (kind : String)
  | deleted (identity : Identity)
  | fetchCancelled (identity : Identity) (why : Fault)
  | fetchFailed (identity : Identity) (why : Fault)
  | loadFailed (identity : Identity) (why : Fault)
  | applying (identity : Identity)
  | requeued (identity : Identity) (why : Fault)
  | checkFailed (identity : Identity) (stage : Option String) (why : Fault)
  | converged (identity : Identity) (stages : Nat)

namespace Event

def level : Event → Level
  | .decoded .. | .notThereYet .. | .rolledOut .. | .stageReady .. => .debug
  | .replaced .. | .fetchFailed .. => .warning
  | .loadFailed .. | .checkFailed .. => .error
  | _ => .info

/-- The part of the engine that the event comes from. -/
def logger : Event → String
  | .decoded .. => "kubestage.decoder"
  | .skipped .. | .replaced .. | .built .. => "kubestage.builder"
  | .snapshotLoaded .. => "kubestage.cluster"
  | .notThereYet .. | .rolledOut .. => "kubestage.controls"
  | .stageReady .. => "kubestage.stepper"
  | _ => "kubestage.engine"

def owned (identity : Identity) (text : String) : String :=
  "[" ++ identity.text ++ "] " ++ text

def sourceText : Option String → String
  | none | some "" => "<bytes>"
  | some s => s

def text : Event → String
  | .decoded kind name source =>
    "Decoded " ++ kind.name ++ "/" ++ name.display ++ " from " ++ sourceText source
  | .skipped kind file => "Unknown resource kind '" ++ kind ++ "' in " ++ file ++ ", skipping"
  | .replaced stage kind file =>
    "Stage '" ++ stage ++ "': " ++ kind.name ++ " from " ++ file ++ " replaces an earlier " ++ kind.name
  | .built stage directory controls others =>
    "Built stage '" ++ stage ++ "' from " ++ directory ++ ": " ++ toString controls ++ " controls, " ++
      toString others ++ " skipped"
  | .snapshotLoaded n path => "Loaded " ++ toString n ++ " live objects from " ++ path
  | .notThereYet kind name => kind.name ++ "/" ++ name.display ++ " not found in cluster yet"
  | .rolledOut name ready desired unavailable =>
    "DaemonSet " ++ name.display ++ ": " ++ toString ready ++ "/" ++ toString desired ++ " ready, " ++
      toString unavailable ++ " unavailable"
  | .stageReady owner stage cursor total =>
    "[" ++ owner.getD "None" ++ "] stage '" ++ stage ++ "' ready (" ++
      toString cursor ++ "/" ++ toString total ++ ")"
  | .catalogReady stages => "Stage catalog ready: " ++ (Value.list (stages.map .str)).literal
  | .fetching i kind => owned i ("Fetch the " ++ kind ++ " instance")
  | .deleted i => owned i "resource has been deleted, nothing to do"
  | .fetchCancelled i why => owned i why.message
  | .fetchFailed i why =>
    owned i ("requeueing since there was an error reading the object: " ++ why.message)
  | .loadFailed i why => owned i ("unable to load manifests: " ++ why.message)
  | .applying i => owned i "Ready to apply components"
  | .requeued i why => owned i (why.message ++ "; requeueing")
  | .checkFailed i stage why =>
    owned i ("readiness check failed in stage '" ++ stage.getD "?" ++ "': " ++ why.message)
  | .converged i n => owned i ("all " ++ toString n ++ " stages converged")

end Event

/-- The result of loading something, and what that leaves in the log. -/
structure Loaded (α : Type) where
  result : Except Fault α
  events : List Event

end StageGate
