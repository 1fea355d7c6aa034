import StageGate.Yaml.Moment

/-! Types of nodes: those that tags state, and those that plain scalars show by their form. -/

namespace StageGate.Yaml

inductive Tag where
  | str
  | int
  | float
  | bool
  | null
  | binary
  | timestamp
  | set
  | omap
  | pairs
  | map
  | seq
  /-- The key that merges other mappings. -/
  | merge
  /-- The key that stands for the mapping it is in. -/
  | value
  | foreign
deriving DecidableEq, Repr

namespace Tag

/-- The prefix of the tags that every document knows. -/
def commonPrefix : String := "tag:yaml.org,2002:"

def ofText (s : String) : Tag :=
  match s.dropPrefix? commonPrefix with
  | none => .foreign
  | some name =>
    match name.toString with
    | "str" => .str
    | "int" => .int
    | "float" => .float
    | "bool" => .bool
    | "null" => .null
    | "binary" => .binary
    | "timestamp" => .timestamp
    | "set" => .set
    | "omap" => .omap
    | "pairs" => .pairs
    | "map" => .map
    | "seq" => .seq
    | "merge" => .merge
    | "value" => .value
    | _ => .foreign

/-! Forms of plain scalars. -/

def dropSign : List Char → List Char
  | '-' :: cs | '+' :: cs => cs
  | cs => cs

/-- Drops a sign that has to be there. -/
def dropGivenSign? : List Char → Option (List Char)
  | '-' :: cs | '+' :: cs => some cs
  | _ => none

def isSpacedDigit (c : Char) : Bool :=
  isAsciiDigit c || c == '_'

/-- A digit and then digits or underscores; what follows them. -/
def afterDigits? : List Char → Option (List Char)
  | [] => none
  | c :: cs => if isAsciiDigit c then some (cs.dropWhile isSpacedDigit) else none

def isDigits (cs : List Char) : Bool :=
  !cs.isEmpty && cs.all isAsciiDigit

/-- An exponent with an optional sign. -/
def isExponent : List Char → Bool
  | c :: cs => (c == 'e' || c == 'E') && isDigits (dropSign cs)
  | [] => false

/-- An exponent with a sign. -/
def isSignedExponent : List Char → Bool
  | c :: cs => (c == 'e' || c == 'E') && (dropGivenSign? cs).any isDigits
  | [] => false

/-- Digits before the point, or an exponent after digits. -/
def isWholeFloat (cs : List Char) : Bool :=
  match afterDigits? cs with
  | none => false
  | some ('.' :: rest) =>
    let rest := rest.dropWhile isSpacedDigit
    rest.isEmpty || isExponent rest
  | some rest => isExponent rest

/-- Digits after the point only. -/
def isPureFraction : List Char → Bool
  | '.' :: cs =>
    let rest := cs.dropWhile isSpacedDigit
    (match cs with | c :: _ => isSpacedDigit c | [] => false) && (rest.isEmpty || isSignedExponent rest)
  | _ => false

/-- Parts such as `:30`, one or more, below sixty; what follows them. -/
def afterSixtieths : Nat → List Char → Option (List Char)
  | 0, _ => none
  | fuel + 1, ':' :: cs =>
    let part := cs.takeWhile isAsciiDigit
    let small := match part with | [_] => true | [d, _] => d ≤ '5' | _ => false
    if !small then none
    else
      let rest := cs.drop part.length
      if rest.head? == some ':' then afterSixtieths fuel rest else some rest
  | _, _ => none

def isWord (words : List String) (cs : List Char) : Bool :=
  words.contains (String.ofList cs)

def isFloat (oldRules : Bool) (cs : List Char) : Bool :=
  let body := dropSign cs
  isWholeFloat body || isPureFraction (if oldRules then cs else body) ||
    isWord [".inf", ".Inf", ".INF"] body || isWord [".nan", ".NaN", ".NAN"] cs ||
    (oldRules && match (afterDigits? body).bind (afterSixtieths (cs.length + 1)) with
      | some ('.' :: rest) => rest.all isSpacedDigit
      | _ => false)

def isRun (p : Char → Bool) (cs : List Char) : Bool :=
  !cs.isEmpty && cs.all fun c => p c || c == '_'

def isBinaryDigit (c : Char) : Bool :=
  c == '0' || c == '1'

def isOctalDigit (c : Char) : Bool :=
  '0' ≤ c && c ≤ '7'

def isInt (oldRules : Bool) (cs : List Char) : Bool :=
  let body := dropSign cs
  let starts := cs.length != body.length || body.head?.any isAsciiDigit
  starts && (match body with
    | '0' :: 'b' :: rest => isRun isBinaryDigit rest
    | '0' :: 'x' :: rest => isRun isHexDigit rest
    | '0' :: 'o' :: rest => !oldRules && isRun isOctalDigit rest
    | _ =>
      if oldRules then
        isRun isOctalDigit body || (body.head? != some '0' && match afterDigits? body with
          | none => false
          | some [] => true
          | some rest => afterSixtieths (cs.length + 1) rest == some [])
      else isRun isAsciiDigit body)

def trueWords : List String := ["true", "True", "TRUE"]
def falseWords : List String := ["false", "False", "FALSE"]

/-- Further words for the two truth values in version 1.1. -/
def oldTruthWords : List String := [
  "y", "Y", "yes", "Yes", "YES", "n", "N", "no", "No", "NO", "on", "On", "ON", "off", "Off", "OFF"]

/-- The type of a plain scalar. -/
def ofPlain (oldRules : Bool) (s : String) : Tag :=
  let cs := s.toList
  if isWord (trueWords ++ falseWords ++ if oldRules then oldTruthWords else []) cs then .bool
  else if isWord ["", "~", "null", "Null", "NULL"] cs then .null
  else if isFloat oldRules cs then .float
  else if isInt oldRules cs then .int
  else if Moment.isMoment cs then .timestamp
  else if s == "<<" then .merge
  else if s == "=" then .value
  else .str

end Tag
end StageGate.Yaml
