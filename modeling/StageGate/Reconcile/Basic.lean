import StageGate.Reconcile.Catalog
import StageGate.Reconcile.Registry

/-!
Reconciling a managed instance: fetch it, load the stages, and step through them until all are passed
or something stops it. An instance that is gone is forgotten, and all else that stops it asks for
another try.
-/

namespace StageGate

structure Outcome where
  requeue : Bool
  fault : Option Fault

namespace Outcome

def done : Outcome := ⟨false, none⟩

def retry (f : Fault) : Outcome := ⟨true, some f⟩

end Outcome

/-- What stays the same for all instances. -/
structure Settings (World : Type) where
  source : StageSource World
  instanceKind : String
  /-- Seconds for a reconcile that brings no token of its own, or null. -/
  timeout : Value

structure Reconciler (World : Type) where
  catalog : Catalog World
  registry : Registry World

namespace Reconciler
variable {World : Type}

def new : Reconciler World := ⟨.empty, .empty⟩

/-- The reconciler after a reconcile, and its outcome or the fault that escapes it. -/
abbrev Reconciled (World : Type) := Ran World (Reconciler World × Except Fault Outcome)

def instanceLookup (settings : Settings World) (i : Identity) : Lookup :=
  ⟨.str settings.instanceKind, .str i.name, .str i.namespaceName⟩

/-- The fault that stopped a stepper, as a log event; one that waiting may cure is no error. -/
def stopEvent (i : Identity) (s : Stepper World) (f : Fault) : Event :=
  if f.isNotReady || f.isCancelled then .requeued i f
  else .checkFailed i (s.current?.map (·.name)) f

/-- Steps through the stages for an instance that was found. -/
def apply (host : Host World) (r : Reconciler World) (i : Identity) (subject : Value)
    (stages : List (Stage World)) (t : Token) (w : World) : Reconciled World :=
  let ran := ((r.registry.get i).restart subject stages).run host subject t w
  let (s, stopped) := ran.result
  let r := { r with registry := r.registry.set i s }
  let (outcome, event) := match stopped with
    | some f => (Outcome.retry f, stopEvent i s f)
    | none => (Outcome.done, .converged i stages.length)
  ⟨(r, .ok outcome), ran.token, ran.world,
    .logged (.applying i) :: ran.effects ++ [.logged event]⟩

/-- Loads the stages and steps through them. -/
def load (settings : Settings World) (host : Host World) (r : Reconciler World) (i : Identity)
    (subject : Value) (t : Token) (w : World) : Reconciled World :=
  let (catalog, loaded) := r.catalog.stages settings.source w
  let r := { r with catalog }
  let events := loaded.events.map Effect.logged
  match loaded.result with
  | .error f =>
    if f.isDecode then
      ⟨(r, .ok (.retry f)), t, w, events ++ [.logged (.loadFailed i f)]⟩
    else ⟨(r, .error f), t, w, events⟩
  | .ok stages =>
    let applied := apply host r i subject stages t w
    { applied with effects := events ++ applied.effects }

/-- The outcome of a fetch that failed. -/
def unfetched (r : Reconciler World) (i : Identity) (f : Fault) :
    Reconciler World × Outcome × Event :=
  if f.isNotFound then ({ r with registry := r.registry.forget i }, .done, .deleted i)
  else if f.isCancelled then (r, .retry f, .fetchCancelled i f)
  else (r, .retry f, .fetchFailed i f)

/-- Reconciles with a token. -/
def reconcileWith (settings : Settings World) (host : Host World) (r : Reconciler World)
    (i : Identity) (t : Token) (w : World) : Reconciled World :=
  let fetched : Ran World (Except Fault Value) :=
    match t.check (host.now w) "instance fetch" with
    | some f => ⟨.error f, t, w, []⟩
    | none => host.fetch (instanceLookup settings i) t w
  let effects := .logged (.fetching i settings.instanceKind) :: fetched.effects
  match fetched.result with
  | .error f =>
    let (r, outcome, event) := unfetched r i f
    ⟨(r, .ok outcome), fetched.token, fetched.world, effects ++ [.logged event]⟩
  | .ok subject =>
    let loaded := load settings host r i subject fetched.token fetched.world
    { loaded with effects := effects ++ loaded.effects }

/-- Reconciles; without a token the timeout of the settings makes one. -/
def reconcile (settings : Settings World) (host : Host World) (r : Reconciler World) (i : Identity)
    (token : Option Token) (w : World) : Reconciled World :=
  match token with
  | some t => reconcileWith settings host r i t w
  | none =>
    match Token.ofTimeout (host.now w) settings.timeout with
    | .ok t => reconcileWith settings host r i t w
    | .error m => ⟨(r, .error (.mismatch m)), .quiet, w, []⟩

end Reconciler
end StageGate
