import StageGate.Decimal.Reading
import StageGate.Manifest.Decode
import StageGate.Stage.Control

/-!
Readiness: one control for each kind. It looks up the live counterpart of the resource in the bundle;
a counterpart that does not exist is not ready, and what else is asked of it depends on the kind.
-/

namespace StageGate
namespace Readiness

/-- The namespace of a managed instance. -/
def instanceNamespace (subject : Value) : Except Mismatch Value :=
  match subject.entries? with
  | none => .error .noSuchMember
  | some es => (Manifest.membersOf (es.get "metadata")).map (·.get "namespace")

/-- Where the live counterpart of a resource is found. -/
def lookupFor (subject : Value) (r : Resource) : Except Mismatch Lookup :=
  let place (ns : Value) : Lookup := ⟨.str r.kind.name, r.name, ns⟩
  if r.kind.isClusterScoped then .ok (place .null)
  else if r.metadata.namespaceName.isPresent then .ok (place r.metadata.namespaceName)
  else (instanceNamespace subject).map place

/-- The status of a live object. -/
def statusOf (live : Value) : Except Mismatch Mapping :=
  match live.entries? with
  | none => .error .noSuchMember
  | some es => Manifest.membersOf (es.get "status")

def isText (s : String) : Value → Bool
  | .str t => t == s
  | _ => false

def orBadValue (n : Option Int) : Except Mismatch Int :=
  match n with
  | some n => .ok n
  | none => .error .badValue

/-- A counter: a number or the text of one, nothing being zero. -/
def counter (v : Value) : Except Mismatch Int :=
  if !v.isPresent then .ok 0
  else
    match v with
    | .int n => .ok n
    | .bool b => .ok (if b then 1 else 0)
    | .float x =>
      match Decimal.Parts.ofFloat x with
      | .finite b => .ok b.truncate
      | .infinite _ => .error .outOfRange
      | .undefined => .error .badValue
    | .str s => orBadValue (Decimal.readInt? 10 s.toList)
    | .bytes bs =>
      if bs.all (· < 128) then
        orBadValue (Decimal.readInt? 10 (bs.map fun b => Char.ofNat b.toNat))
      else .error .badValue
    | _ => .error .wrongType

structure Rollout where
  desired : Int
  ready : Int
  unavailable : Int

def rolloutOf (status : Mapping) : Except Mismatch Rollout := do
  let desired ← counter (status.get "desiredNumberScheduled")
  let ready ← counter (status.get "numberReady")
  let unavailable ← counter (status.get "numberUnavailable")
  return ⟨desired, ready, unavailable⟩

/-- With nothing desired there is nothing to wait for. -/
def Rollout.isDone (r : Rollout) : Bool :=
  r.desired == 0 || (r.desired ≤ r.ready && r.unavailable ≤ 0)

/-- Whether the listed containers are all ready; the first that is not settles it. -/
def allReady : List Value → Except Mismatch Bool
  | [] => .ok true
  | c :: cs =>
    match c.entries? with
    | none => .error .noSuchMember
    | some es => if (es.get "ready").isPresent then allReady cs else .ok false

def containersReady (v : Value) : Except Mismatch Bool :=
  if !v.isPresent then .ok false
  else
    match v.elements? with
    | none => .error .wrongType
    | some cs => allReady cs

def answer (isReady : Bool) : Answer :=
  if isReady then .ready else .notReady

def podIsReady (status : Mapping) : Except Mismatch Bool :=
  let phase := status.get "phase"
  if isText "Succeeded" phase then .ok true
  else if isText "Running" phase then containersReady (status.get "containerStatuses")
  else .ok false

/-- What is said of a rollout that is not done, if all of it can be written. -/
def Rollout.event (n : Rollout) (name : Value) : Except Mismatch Event :=
  if [name, .int n.ready, .int n.desired, .int n.unavailable].all Value.isWritable then
    .ok (.rolledOut name n.ready n.desired n.unavailable)
  else .error .badValue

/-- The verdict of the control of a kind on the live counterpart of a resource, and what it leaves in
the log. -/
def judge (k : Kind) (r : Resource) (live : Value) : Except Mismatch (Answer × List Event) :=
  match k with
  | .nameSpace => do
    let status ← statusOf live
    return (answer !(isText "Terminating" (status.get "phase")), [])
  | .daemonSet => do
    let n ← rolloutOf (← statusOf live)
    if n.isDone then return (.ready, []) else return (.notReady, [← n.event r.name])
  | .pod => do return (answer (← podIsReady (← statusOf live)), [])
  | _ => .ok (.ready, [])

/-- What becomes of a look-up of the live counterpart, and what it leaves in the log. -/
def judgeFetched (k : Kind) (r : Resource) : Except Fault Value → Except Fault Answer × List Event
  | .error (.notFound ..) =>
    if r.name.isWritable then (.ok .notReady, [.notThereYet r.kind r.name])
    else (.error (.mismatch .badValue), [])
  | .error f => (.error f, [])
  | .ok live =>
    match judge k r live with
    | .error m => (.error (.mismatch m), [])
    | .ok (a, es) => (.ok a, es)

/-- Looks up the live counterpart of a resource, and has the control of a kind judge it. -/
def checkResource {World : Type} (k : Kind) (h : Host World) (subject : Value) (r : Resource)
    (t : Token) (w : World) : Ran World (Except Fault Answer) :=
  match lookupFor subject r with
  | .error m => ⟨.error (.mismatch m), t, w, []⟩
  | .ok l =>
    let fetched := h.fetch l t w
    let judged := judgeFetched k r fetched.result
    ⟨judged.1, fetched.token, fetched.world, fetched.effects ++ judged.2.map .logged⟩

/-- The title of the control of a kind. -/
def title : Kind → String
  | .nameSpace => "namespace_control"
  | .daemonSet => "daemon_set_control"
  | .pod => "pod_control"
  | k => k.slotName ++ "_exists"

/-- The control of a kind; a bundle without a resource of the kind is not ready. -/
def control (World : Type) (k : Kind) : Control World :=
  ⟨some (title k), fun h subject b t w =>
    match b.get k with
    | none => ⟨.ok .notReady, t, w, []⟩
    | some r => checkResource k h subject r t w⟩

end Readiness
end StageGate
