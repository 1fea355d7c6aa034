/-! Paths: their normal form, joins, and names. -/

namespace StageGate.Files

/-- How many slashes a path starts with: none, one, or exactly two. -/
inductive Anchor where
  | relative
  | root
  | doubleRoot
deriving DecidableEq, Repr

def Anchor.text : Anchor → String
  | .relative => ""
  | .root => "/"
  | .doubleRoot => "//"

/-- A path in normal form: without empty parts and parts that are a single dot. -/
structure Path where
  anchor : Anchor
  parts : List String
deriving DecidableEq, Repr

namespace Path

/-- The text between slashes. -/
def splitSlashes : List Char → List (List Char)
  | [] => [[]]
  | c :: cs =>
    match splitSlashes cs with
    | [] => [[c]]
    | part :: parts => if c == '/' then [] :: part :: parts else (c :: part) :: parts

/-- The named parts of a path text. -/
def partsOf (s : String) : List String :=
  ((splitSlashes s.toList).filter fun part => part != [] && part != ['.']).map String.ofList

/-- Whether the text can only name a directory, since it ends in a slash or a dot. -/
def endsInDirectory (s : String) : Bool :=
  match (splitSlashes s.toList).getLast? with
  | some part => part == [] || part == ['.']
  | none => false

/-- The steps that a path text takes: its parts, those that are a single dot too, and one more such step
where it ends in a slash. -/
def stepsOf (s : String) : List String :=
  let parts := splitSlashes s.toList
  let steps := (parts.filter (· != [])).map String.ofList
  if parts.getLast? == some [] then steps ++ ["."] else steps

def anchorOf (s : String) : Anchor :=
  match s.toList with
  | '/' :: '/' :: '/' :: _ => .root
  | '/' :: '/' :: _ => .doubleRoot
  | '/' :: _ => .root
  | _ => .relative

def ofText (s : String) : Path :=
  ⟨anchorOf s, partsOf s⟩

def text (p : Path) : String :=
  if p.anchor == .relative && p.parts.isEmpty then "."
  else p.anchor.text ++ "/".intercalate p.parts

/-- The path `q` seen from `p`; a path from the root stands for itself. -/
def join (p q : Path) : Path :=
  if q.anchor == .relative then ⟨p.anchor, p.parts ++ q.parts⟩ else q

/-- The last part, empty if there is none. -/
def name (p : Path) : String :=
  p.parts.getLastD ""

end Path
end StageGate.Files
