import StageGate.Yaml.Property
import StageGate.Yaml.Scalar

/-!
The tokens of a text. Indentation opens and closes block collections, and a node turns out to be a
mapping key only at the colon after it, so its key token is put in place later.
-/

namespace StageGate.Yaml

/-- A place where the key of a mapping may have started. -/
structure KeyPlace where
  level : Nat
  /-- The number of tokens before the key. -/
  tokens : Nat
  /-- Nothing but a key can stand here. -/
  required : Bool
  cursor : Cursor

structure TokenStream where
  cursor : Cursor
  tokens : Array Placed
  /-- The open flow collections, innermost first; mappings are true. -/
  flow : List Bool
  indent : Int
  outerIndents : List Int
  keyAllowed : Bool
  keyPlaces : List KeyPlace
  /-- The version that a directive states for the next document. -/
  version : Option (Nat × Nat)
  /-- Whether the document is read by the rules of version 1.1. -/
  oldRules : Bool

namespace TokenStream

def start (text : String) : TokenStream :=
  ⟨.start text, #[], [], -1, [], true, [], none, false⟩

def level (s : TokenStream) : Nat :=
  s.flow.length

def inFlow (s : TokenStream) : Bool :=
  !s.flow.isEmpty

def push (s : TokenStream) (t : Token) : TokenStream :=
  { s with tokens := s.tokens.push ⟨t, s.cursor.line⟩ }

/-- Adds the token that was read from the cursor up to `after`. -/
def take (s : TokenStream) (t : Token) (after : Cursor) : TokenStream :=
  { s.push t with cursor := after }

def column (s : TokenStream) : Int :=
  s.cursor.column

/-- How long a key may be. -/
def keyLimit : Nat := 1024

def isStale (s : TokenStream) (k : KeyPlace) : Bool :=
  k.cursor.line != s.cursor.line || s.cursor.index - k.cursor.index > keyLimit

/-- Gives up the key places that satisfy `p`. -/
def dropKeyPlaces (s : TokenStream) (p : KeyPlace → Bool) : Except Refusal TokenStream :=
  if s.keyPlaces.any fun k => p k && k.required then .error .malformed
  else .ok { s with keyPlaces := s.keyPlaces.filter (!p ·) }

def dropStale (s : TokenStream) : Except Refusal TokenStream :=
  s.dropKeyPlaces s.isStale

/-- Gives up the key place of the current level. -/
def dropKeyPlace (s : TokenStream) : Except Refusal TokenStream :=
  s.dropKeyPlaces (·.level == s.level)

/-- Notes that a key may start here. -/
def saveKeyPlace (s : TokenStream) : Except Refusal TokenStream :=
  if !s.keyAllowed then .ok s
  else do
    let required := !s.inFlow && s.indent == s.column
    let t ← s.dropKeyPlace
    return { t with keyPlaces := ⟨s.level, s.tokens.size, required, s.cursor⟩ :: t.keyPlaces }

/-- The number of collections indented deeper than `column`, and the indentations left. -/
def deeper (column : Int) : Int → List Int → Nat × Int × List Int
  | indent, [] => (0, indent, [])
  | indent, outer :: rest =>
    if indent > column then
      let (n, indent, rest) := deeper column outer rest
      (n + 1, indent, rest)
    else (0, indent, outer :: rest)

/-- Closes the block collections indented deeper than `column`; inside flow collections nothing. -/
def unwind (s : TokenStream) (column : Int) : TokenStream :=
  if s.inFlow then s
  else
    let (n, indent, outerIndents) := deeper column s.indent s.outerIndents
    let s := n.repeat (·.push .blockEnd) s
    { s with indent, outerIndents }

def widen (s : TokenStream) (column : Int) : TokenStream :=
  { s with indent := column, outerIndents := s.indent :: s.outerIndents }

/-- Opens a block collection if `column` is deeper than the current one. -/
def opens (s : TokenStream) (t : Token) : TokenStream :=
  if s.indent < s.column then (s.push t).widen s.column else s

/-- Skips blanks, comments, and line breaks up to the next token. -/
def skipGap : Nat → TokenStream → TokenStream
  | 0, s => s
  | fuel + 1, s =>
    let c := (s.cursor.skipWhile fun c => c == ' ' || (s.inFlow && c == '\t')).skipComment
    match c.lineBreak? with
    | none => { s with cursor := c }
    | some (_, c) =>
      skipGap fuel { s with cursor := c, keyAllowed := s.keyAllowed || !s.inFlow }

/-- Skips the byte order mark that a text may start with. -/
def skipMark (s : TokenStream) : TokenStream :=
  if s.cursor.index == 0 && s.cursor.head == '\uFEFF' then { s with cursor := s.cursor.next } else s

/-! One step for each kind of token. -/

def endOfStream (s : TokenStream) : Except Refusal TokenStream := do
  let s ← (s.unwind (-1)).dropKeyPlace
  return { s.push .streamEnd with keyAllowed := false, keyPlaces := [] }

def directive (s : TokenStream) : Except Refusal TokenStream := do
  let s ← (s.unwind (-1)).dropKeyPlace
  match Property.directive? s.oldRules s.cursor with
  | none => .error .malformed
  | some (d, after) =>
    let version := match d with
      | .version major minor => s.version <|> some (major, minor)
      | _ => s.version
    return { s.take (.directive d) after with keyAllowed := false, version }

/-- A document boundary; the start of a document settles its version. -/
def boundary (s : TokenStream) (t : Token) : Except Refusal TokenStream := do
  let s ← (s.unwind (-1)).dropKeyPlace
  let s := { s.take t (s.cursor.skip 3) with keyAllowed := false }
  if t == .documentStart then
    return { s with oldRules := s.version == some (1, 1), version := none }
  else return s

def openFlow (s : TokenStream) (isMapping : Bool) : Except Refusal TokenStream := do
  let s ← s.saveKeyPlace
  let t := if isMapping then Token.flowMappingStart else .flowSequenceStart
  return { s.take t s.cursor.next with flow := isMapping :: s.flow, keyAllowed := true }

def closeFlow (s : TokenStream) (t : Token) : Except Refusal TokenStream := do
  let s ← s.dropKeyPlace
  return { s.take t s.cursor.next with flow := s.flow.drop 1, keyAllowed := false }

def flowEntry (s : TokenStream) : Except Refusal TokenStream := do
  let s ← s.dropKeyPlace
  return { s.take .flowEntry s.cursor.next with keyAllowed := true }

def blockEntry (s : TokenStream) : Except Refusal TokenStream := do
  if !s.inFlow && !s.keyAllowed then .error .malformed
  else
    let s := if s.inFlow then s else s.opens .blockSequenceStart
    let s ← s.dropKeyPlace
    return { s.take .blockEntry s.cursor.next with keyAllowed := true }

/-- A key that `?` announces. -/
def statedKey (s : TokenStream) : Except Refusal TokenStream := do
  if !s.inFlow && !s.keyAllowed then .error .malformed
  else
    let s := if s.inFlow then s else s.opens .blockMappingStart
    let s ← s.dropKeyPlace
    return { s.take .key s.cursor.next with keyAllowed := !s.inFlow }

/-- Puts the key token, and what else opens there, in front of a key already read. -/
def insertKey (s : TokenStream) (k : KeyPlace) : TokenStream :=
  let put (t : Token) (s : TokenStream) :=
    { s with tokens := s.tokens.insertIdxIfInBounds k.tokens ⟨t, k.cursor.line⟩ }
  let s := put .key { s with keyPlaces := s.keyPlaces.filter (·.level != s.level) }
  let column : Int := k.cursor.column
  let s := if !s.inFlow && s.indent < column then (put .blockMappingStart s).widen column else s
  { s with keyAllowed := false }

def value (s : TokenStream) : Except Refusal TokenStream := do
  let s ←
    match s.keyPlaces.find? (·.level == s.level) with
    | some k => .ok (s.insertKey k)
    | none =>
      if s.inFlow then ({ s with keyAllowed := false }).dropKeyPlace
      else if !s.keyAllowed then .error .malformed
      else (s.opens .blockMappingStart).dropKeyPlace
  return s.take .value s.cursor.next

/-- A token that may start a key, and after which no other key may start. -/
def word (s : TokenStream) (read : Cursor → Except Refusal (Token × Cursor)) :
    Except Refusal TokenStream := do
  let s ← s.saveKeyPlace
  let (t, after) ← read s.cursor
  return { s.take t after with keyAllowed := false }

def orMalformed {α : Type} (r : Option α) : Except Refusal α :=
  match r with
  | some a => .ok a
  | none => .error .malformed

def reference (s : TokenStream) : Except Refusal TokenStream :=
  s.word fun c => (orMalformed (Property.anchorName? c)).map fun (n, c) => (.reference n, c)

def anchor (s : TokenStream) : Except Refusal TokenStream :=
  s.word fun c => (orMalformed (Property.anchorName? c)).map fun (n, c) => (.anchor n, c)

def tag (s : TokenStream) : Except Refusal TokenStream :=
  s.word fun c => (orMalformed (Property.tag? s.oldRules c)).map fun (t, c) => (.tag t.1 t.2, c)

def quoted (s : TokenStream) : Except Refusal TokenStream :=
  s.word fun c => (Scalar.quoted c).map fun (cs, c) => (.scalar (String.ofList cs) false, c)

def block (s : TokenStream) : Except Refusal TokenStream := do
  let s ← s.dropKeyPlace
  let (cs, after) ← orMalformed (Scalar.block? s.indent s.cursor)
  return { s.take (.scalar (String.ofList cs) false) after with keyAllowed := true }

/-- A plain scalar; after a line break another key may start. -/
def plain (s : TokenStream) : Except Refusal TokenStream := do
  let s ← s.saveKeyPlace
  let p := Scalar.plain s.oldRules s.inFlow (s.indent + 1) s.cursor
  return { s.take (.scalar (String.ofList p.chars) true) p.cursor with keyAllowed := p.brokeLine }

/-! Which token starts at the cursor. -/

def startsKey (s : TokenStream) : Bool :=
  s.inFlow || endsWord (s.cursor.peek 1)

/-- Whether the colon here is a value mark; `pending` tells that a key place was open before it. -/
def startsValue (s : TokenStream) (pending : Bool) : Bool :=
  let spaced := endsWord (s.cursor.peek 1)
  match s.flow with
  | [] => spaced
  | isMapping :: _ =>
    let afterValue := pending && s.tokens.back?.any (·.token == .value)
    s.oldRules || (if isMapping then !afterValue else false) || spaced

/-- Characters that never start a plain scalar on their own. -/
def isIndicator (c : Char) : Bool :=
  endsWord c || isBreak c || oneOf "-?:,[]\x7b\x7d#&*!|>'\"%@\x60" c

def startsPlain (s : TokenStream) : Bool :=
  let c := s.cursor.head
  let c' := s.cursor.peek 1
  !isIndicator c || (!s.oldRules && c == ':' && s.inFlow && c' != ' ' && c' != '\t') ||
    (!endsWord c' && (c == '-' || (!s.inFlow && (c == '?' || c == ':'))))

/-- Reads the token at the cursor. -/
def step (s : TokenStream) (pending : Bool) : Except Refusal TokenStream :=
  let c := s.cursor.head
  let atMargin := s.cursor.column == 0
  if s.cursor.rest.isEmpty then s.endOfStream
  else if c == '%' && atMargin then s.directive
  else if atMargin && s.cursor.marks '-' then s.boundary .documentStart
  else if atMargin && s.cursor.marks '.' then s.boundary .documentEnd
  else if c == '[' then s.openFlow false
  else if c == '\x7b' then s.openFlow true
  else if c == ']' then s.closeFlow .flowSequenceEnd
  else if c == '\x7d' then s.closeFlow .flowMappingEnd
  else if c == ',' then s.flowEntry
  else if c == '-' && endsWord (s.cursor.peek 1) then s.blockEntry
  else if c == '?' && s.startsKey then s.statedKey
  else if c == ':' && s.startsValue pending then s.value
  else if c == '*' then s.reference
  else if c == '&' then s.anchor
  else if c == '!' then s.tag
  else if (c == '|' || c == '>') && !s.inFlow then s.block
  else if c == '\'' || c == '"' then s.quoted
  else if s.startsPlain then s.plain
  else .error .malformed

def next (s : TokenStream) : Except Refusal TokenStream := do
  let s ← s.dropStale
  let pending := !s.keyPlaces.isEmpty
  let s := s.skipMark
  let s ← (s.skipGap (s.cursor.rest.length + 1)).dropStale
  (s.unwind s.column).step pending

/-- The tokens that no key token can be put in front of any more. -/
def settled (s : TokenStream) : Array Placed :=
  s.keyPlaces.foldl (fun ts k => ts.take k.tokens) s.tokens

def readAll : Nat → TokenStream → Array Placed
  | 0, s => s.tokens
  | fuel + 1, s =>
    match s.next with
    | .error why => s.settled.push ⟨.invalid why, s.cursor.line⟩
    | .ok s => if s.tokens.back?.any (·.token == .streamEnd) then s.tokens else readAll fuel s

end TokenStream

/-- The tokens of a text, up to its end or to the first place that cannot be read. -/
def tokens (text : String) : List Placed :=
  (TokenStream.readAll (text.length + 2) (.start text)).toList

end StageGate.Yaml
