/-!
Command-line arguments: which of them are options, and what options and positions they fill. An option
may be shortened as long as no other one starts the same way, and takes its value after an equals sign
or as the next argument; after `--` nothing is an option.
-/

namespace StageGate.CommandLine

/-- An option and the names it goes by. -/
structure OptionSpec where
  names : List String
  takesValue : Bool
deriving DecidableEq, Repr

/-- How an argument reads. -/
inductive Shape where
  | value
  /-- The first `--`. -/
  | divider
  /-- An option as it is named, with a value or further short options attached; `none` is unknown. -/
  | option (spec : Option OptionSpec) (name : String) (attached : Option (List Char))
deriving DecidableEq, Repr

/-- The text before the first equals sign, and what is after it. -/
def splitEquals (cs : List Char) : List Char × Option (List Char) :=
  match cs.dropWhile (· != '=') with
  | [] => (cs, none)
  | _ :: after => (cs.takeWhile (· != '='), some after)

def specNamed (specs : List OptionSpec) (name : String) : Option OptionSpec :=
  specs.find? fun s => s.names.contains name

/-- The options that a shortened name may stand for, each as often as it has such a name. -/
def candidates (specs : List OptionSpec) (start : List Char) : List (OptionSpec × String) :=
  specs.flatMap fun s => (s.names.filter fun n => start.isPrefixOf n.toList).map fun n => (s, n)

/-- What an argument that starts with a hyphen and names no option in full may stand for. -/
def readings (specs : List OptionSpec) (cs : List Char) : List Shape :=
  match cs with
  | '-' :: '-' :: _ =>
    let (start, attached) := splitEquals cs
    (candidates specs start).map fun (s, n) => .option (some s) n attached
  | '-' :: c :: rest =>
    let short := String.ofList ['-', c]
    let clustered := match specNamed specs short with
      | some s => [Shape.option (some s) short (some rest)]
      | none => []
    clustered ++ (candidates specs cs).map fun (s, n) => .option (some s) n none
  | _ => []

def isDigit (c : Char) : Bool :=
  '0' ≤ c && c ≤ '9'

/-- A minus sign and a plain decimal number. -/
def isNegativeNumber (cs : List Char) : Bool :=
  match cs with
  | '-' :: rest =>
    match rest.dropWhile isDigit with
    | [] => !rest.isEmpty
    | '.' :: fraction => !fraction.isEmpty && fraction.all isDigit
    | _ => false
  | _ => false

/-- How an argument before the divider reads; `none` if it may stand for several options. -/
def shapeOf? (specs : List OptionSpec) (argument : String) : Option Shape :=
  let cs := argument.toList
  if cs.head? != some '-' then some .value
  else
    match specNamed specs argument with
    | some s => some (.option (some s) argument none)
    | none =>
      if cs.length == 1 then some .value
      else
        let (start, attached) := splitEquals cs
        let name := String.ofList start
        match attached.bind fun _ => specNamed specs name with
        | some s => some (.option (some s) name attached)
        | none =>
          match readings specs cs with
          | [shape] => some shape
          | _ :: _ :: _ => none
          | [] =>
            if isNegativeNumber cs || cs.contains ' ' then some .value
            else some (.option none argument none)

/-- An argument and how it reads. -/
abbrev Argument := String × Shape

/-- How all arguments read, `none` if one may stand for several options. -/
def shapes? (specs : List OptionSpec) : List String → Option (List Argument)
  | [] => some []
  | "--" :: rest => some (("--", .divider) :: rest.map fun a => (a, .value))
  | a :: rest => do
    let shape ← shapeOf? specs a
    return (a, shape) :: (← shapes? specs rest)

/-- An option that was met, with its value if it takes one. -/
structure Given where
  name : String
  value : String
deriving DecidableEq, Repr

/-- The options in a cluster such as `-vh`, none of which may take a value. -/
def cluster (specs : List OptionSpec) (name : String) : List Char → Option (List Given)
  | [] => some [⟨name, ""⟩]
  | c :: rest =>
    let next := String.ofList ['-', c]
    match specNamed specs next with
    | none => none
    | some s =>
      if s.takesValue then none else (cluster specs next rest).map (⟨name, ""⟩ :: ·)

/-- The options that one argument gives, and the arguments after it; `none` if they are at fault. -/
def takeOption (specs : List OptionSpec) (spec : OptionSpec) (name : String)
    (attached : Option (List Char)) (rest : List Argument) : Option (List Given × List Argument) :=
  match attached with
  | some cs =>
    if spec.takesValue then some ([⟨name, String.ofList cs⟩], rest)
    else if name.length == 2 && !cs.isEmpty then (cluster specs name cs).map fun gs => (gs, rest)
    else none
  | none =>
    if !spec.takesValue then some ([⟨name, ""⟩], rest)
    else
      match rest with
      | (value, .value) :: rest => some ([⟨name, value⟩], rest)
      | _ => none

end StageGate.CommandLine
