import StageGate.CommandLine.Options
import StageGate.Reconcile.Site
import StageGate.Report.Outcome
import StageGate.Report.Plan

/-! Running a command: what it prints, what it logs, and the status it ends with. -/

namespace StageGate.CommandLine

/-- What is written before a command runs, or in place of one. -/
inductive Notice where
  | nothing
  | usage
  | version
deriving DecidableEq, Repr

def versionText : String := "kubestage v0.1.0\n"

/-- What a run shows, and its exit status or the fault that escapes it. -/
structure Ended where
  status : Except Fault Nat
  notice : Notice
  printed : List Printed
  events : List Event

/-- The statuses that a run ends with. -/
def success : Nat := 0
def failure : Nat := 1
def requeued : Nat := 2
def misused : Nat := 2

/-- The value of an option that was given and is not empty, or the one it stands in for. -/
def override (given : Option String) (default : String) : String :=
  match given with
  | none | some "" => default
  | some s => s

/-- The configuration that the options ask for, over the one in the file they name. -/
def configFor [Yaml.Reader] (files : Files.Tree) (o : Options) : Except Fault Config := do
  let path := override o.config ""
  let c ← if path == "" then .ok Config.standard else Config.ofFile files path
  return {
    assetsDir := override o.assetsDir c.assetsDir
    stages := if o.stages.isEmpty then c.stages else o.stages
    instanceKind := override o.instanceKind c.instanceKind
    timeout := match o.timeout with | some x => .float x | none => c.timeout }

/-- Faults that a command reports itself. -/
def isReported (f : Fault) : Bool :=
  f.isConfig || f.isDecode || f.isBadValue

def faultPanel (f : Fault) : Panel :=
  ⟨Markup.styled "bold red" (f.title ++ ":") ++ " " ++ f.message, none, "red", false⟩

/-- The end of a command that a fault stops. -/
def stopped (f : Fault) (events : List Event) : Ended :=
  if isReported f then ⟨.ok failure, .nothing, [.panel (faultPanel f)], events⟩
  else ⟨.error f, .nothing, [], events⟩

def plan [Yaml.Reader] (files : Files.Tree) (o : Options) : Ended :=
  match configFor files o with
  | .error f => stopped f []
  | .ok c =>
    let loaded := StageSource.ofDirectories id c.stageDirs files
    match loaded.result with
    | .error f => stopped f loaded.events
    | .ok stages =>
      ⟨.ok success, .nothing, [.table (Plan.table stages), .text (Plan.summary stages)], loaded.events⟩

/-- The status of an outcome. -/
def statusOf (o : Outcome) : Nat :=
  if o.fault.any (·.isDecode) then failure else if o.requeue then requeued else success

/-- Reconciles an instance once, with a reconciler that is new. -/
def reconcileIn [Yaml.Reader] {World : Type} (s : Surroundings World) (c : Config) (i : Identity) (t : Token)
    (w : World) (before : List Event) : Ended :=
  let ran := Reconciler.reconcile (s.settings c) s.host .new i (some t) w
  let events := before ++ ran.effects.filterMap Effect.event?
  match ran.result with
  | (_, .error f) => stopped f events
  | (r, .ok outcome) =>
    ⟨.ok (statusOf outcome), .nothing, outcome.report i (r.registry.find? i), events⟩

def identityOf (s : String) : Except Fault Identity :=
  match Identity.parse? s with
  | some i => .ok i
  | none => .error (.badIdentity s)

/-- Reconciles the instance that the options name, in surroundings that hold the cluster of the snapshot
and the files. -/
def reconcile [Yaml.Reader] {World : Type} (s : Surroundings World) (files : Files.Tree) (o : Options) :
    Ended :=
  let prepared : Except Fault (Config × Identity) := do
    let c ← configFor files o
    return (c, ← identityOf (o.identity.getD ""))
  match prepared with
  | .error f => stopped f []
  | .ok (c, i) =>
    let loaded := Cluster.ofSnapshot files (o.cluster.getD "")
    match loaded.result with
    | .error f => stopped f loaded.events
    | .ok cluster =>
      let w := s.enter ⟨cluster, files⟩
      match Token.ofTimeout (s.host.now w) c.timeout with
      | .error m => stopped (.mismatch m) loaded.events
      | .ok t => reconcileIn s c i t w loaded.events

/-- The end of a command that is interrupted as it starts. -/
def interruption : Ended :=
  ⟨.ok failure, .nothing, [.text ("\n" ++ Markup.styled "bold red" "Terminated by user.")], []⟩

/-- Debug records are kept only where they are asked for. -/
def isKept (verbose : Bool) (e : Event) : Bool :=
  verbose || e.level != .debug

def runOptions [Yaml.Reader] (now : Rat) (files : Files.Tree) (interrupted : Bool) (o : Options) : Ended :=
  match o.command with
  | none => ⟨.ok success, .usage, [], []⟩
  | some command =>
    if interrupted then interruption
    else
      let ended := match command with
        | .plan => plan files o
        | .reconcile => reconcile (.still now) files o
      { ended with events := ended.events.filter (isKept o.verbose) }

/-- Runs the command that the arguments state. -/
def run [Yaml.Reader] (now : Rat) (files : Files.Tree) (interrupted : Bool) (arguments : List String) :
    Ended :=
  match Options.read arguments with
  | .ok o => runOptions now files interrupted o
  | .error .help => ⟨.ok success, .usage, [], []⟩
  | .error .version => ⟨.ok success, .version, [], []⟩
  | .error .refused => ⟨.ok misused, .nothing, [], []⟩

end StageGate.CommandLine
