import StageGate.CommandLine.Arguments
import StageGate.Decimal.Reading

/-! The commands and their options, read from the arguments. -/

namespace StageGate.CommandLine

inductive Command where
  | plan
  | reconcile
deriving DecidableEq, Repr

def Command.ofName? (s : String) : Option Command :=
  if s == "plan" then some .plan else if s == "reconcile" then some .reconcile else none

structure Options where
  verbose : Bool
  command : Option Command
  config : Option String
  assetsDir : Option String
  stages : List String
  identity : Option String
  cluster : Option String
  instanceKind : Option String
  timeout : Option Float

def Options.start : Options :=
  ⟨false, .none, .none, .none, [], .none, .none, .none, .none⟩

/-- What ends the reading of arguments early. -/
inductive Halt where
  | help
  | version
  | refused
deriving DecidableEq, Repr

def helpSpec : OptionSpec := ⟨["-h", "--help"], false⟩

def mainSpecs : List OptionSpec :=
  [helpSpec, ⟨["--version"], false⟩, ⟨["-v", "--verbose"], false⟩]

def planSpecs : List OptionSpec :=
  [helpSpec, ⟨["--config"], true⟩, ⟨["--assets-dir"], true⟩, ⟨["--stage"], true⟩]

def reconcileSpecs : List OptionSpec :=
  planSpecs ++ [⟨["--cluster"], true⟩, ⟨["--kind"], true⟩, ⟨["--timeout"], true⟩]

def Command.specs : Command → List OptionSpec
  | .plan => planSpecs
  | .reconcile => reconcileSpecs

/-- Notes an option; asking for help or for the version ends the reading at once. -/
def Options.note (o : Options) (g : Given) : Except Halt Options :=
  match g.name with
  | "-h" | "--help" => .error .help
  | "--version" => .error .version
  | "-v" | "--verbose" => .ok { o with verbose := true }
  | "--config" => .ok { o with config := some g.value }
  | "--assets-dir" => .ok { o with assetsDir := some g.value }
  | "--stage" => .ok { o with stages := o.stages ++ [g.value] }
  | "--cluster" => .ok { o with cluster := some g.value }
  | "--kind" => .ok { o with instanceKind := some g.value }
  | "--timeout" =>
    match Decimal.readFloat? g.value.toList with
    | some x => .ok { o with timeout := some x }
    | .none => .error .refused
  | _ => .error .refused

/-- Whether an argument without a dash is still to be taken as the identity. -/
def Options.wantsIdentity (o : Options) : Bool :=
  o.command == some .reconcile && o.identity.isNone

def dropDivider : List Argument → List Argument
  | (_, .divider) :: rest => rest
  | rest => rest

/-- Reads the arguments of a command; tells whether any were left over. -/
def readCommand (specs : List OptionSpec) :
    Nat → Options → Bool → List Argument → Except Halt (Options × Bool)
  | 0, _, _, _ => .error .refused
  | _, o, leftOver, [] => .ok (o, leftOver)
  | fuel + 1, o, leftOver, (text, shape) :: rest =>
    match shape with
    | .option .none _ _ => readCommand specs fuel o true rest
    | .option (some spec) name attached =>
      match takeOption specs spec name attached rest with
      | .none => .error .refused
      | some (given, rest) => do readCommand specs fuel (← given.foldlM Options.note o) leftOver rest
    | .value =>
      if o.wantsIdentity then
        readCommand specs fuel { o with identity := some text } leftOver (dropDivider rest)
      else readCommand specs fuel o true rest
    | .divider =>
      match rest with
      | (text, _) :: others =>
        if o.wantsIdentity then
          readCommand specs fuel { o with identity := some text } leftOver others
        else readCommand specs fuel o true rest
      | [] => .ok (o, true)

/-- Whether all that the command requires is there. -/
def Options.isComplete (o : Options) : Bool :=
  match o.command with
  | some .reconcile => o.identity.isSome && o.cluster.isSome
  | _ => true

/-- Reads the arguments after the name of a command. -/
def enterCommand (o : Options) (leftOver : Bool) (name : String) (rest : List String) :
    Except Halt Options :=
  match Command.ofName? name with
  | .none => .error .refused
  | some command =>
    match shapes? command.specs rest with
    | .none => .error .refused
    | some arguments => do
      let o := { o with command := some command }
      let (o, more) ← readCommand command.specs (rest.length + 1) o false arguments
      if leftOver || more || !o.isComplete then .error .refused else return o

/-- Reads the arguments in front of a command. -/
def readMain : Options → Bool → List Argument → Except Halt Options
  | o, leftOver, [] => if leftOver then .error .refused else .ok o
  | o, leftOver, (text, shape) :: rest =>
    match shape with
    | .option .none _ _ => readMain o true rest
    | .option (some spec) name attached =>
      match takeOption mainSpecs spec name attached rest with
      | .none => .error .refused
      | some (given, _) => do readMain (← given.foldlM Options.note o) leftOver rest
    | .value => enterCommand o leftOver text (rest.map Prod.fst)
    | .divider => .error .refused

/-- The options that arguments state. -/
def Options.read (arguments : List String) : Except Halt Options :=
  match shapes? mainSpecs arguments with
  | .none => .error .refused
  | some arguments => readMain .start false arguments

end StageGate.CommandLine
