import StageGate.Yaml.Cursor
import StageGate.Yaml.Token

/-! Node properties and directives as they stand in a text: anchor names, tags, versions, tag prefixes. -/

namespace StageGate.Yaml
namespace Property

/-! Anchors. -/

def isNameChar (c : Char) : Bool :=
  !oneOf ",[]\x7b\x7d" c && (('!' ≤ c && c ≤ '~') || (0xA0 ≤ c.toNat && c != '\uFEFF'))

def endsName (c : Char) : Bool :=
  endsWord c || isBreak c || oneOf "?:,[]\x7b\x7d%@\x60" c

/-- The name after `&` or `*`. -/
def anchorName? (c : Cursor) : Option (String × Cursor) :=
  let (name, c) := c.next.span isNameChar
  if name.isEmpty || !endsName c.head then none else some (String.ofList name, c)

/-! Tags. -/

def isUriChar (oldRules : Bool) (c : Char) : Bool :=
  isAsciiLetter c || isAsciiDigit c || oneOf "-;/?:@&=+$,_.!~*'()[]" c || (!oldRules && c == '#')

/-- The bytes of a run of escapes such as `%C3%A9`; `none` if one is not two hexadecimal digits. -/
def escapedBytes : List Char → Option (List UInt8 × List Char)
  | '%' :: a :: b :: rest =>
    if isHexDigit a && isHexDigit b then
      (escapedBytes rest).map fun (bytes, rest) =>
        ((hexValue a * 16 + hexValue b).toUInt8 :: bytes, rest)
    else none
  | '%' :: _ => none
  | rest => some ([], rest)

/-- A tag text up to the first character that may not stand in one, escapes resolved. -/
def uriFrom (oldRules : Bool) : Nat → Cursor → List Char → Option (List Char × Cursor)
  | 0, _, _ => none
  | fuel + 1, c, acc =>
    if c.head == '%' then
      match escapedBytes c.rest with
      | none => none
      | some (bytes, rest) =>
        match String.fromUTF8? ⟨bytes.toArray⟩ with
        | none => none
        | some s => uriFrom oldRules fuel (c.skip (c.rest.length - rest.length)) (acc ++ s.toList)
    else
      let (run, c) := c.span (isUriChar oldRules)
      if run.isEmpty then some (acc, c) else uriFrom oldRules fuel c (acc ++ run)

def uri? (oldRules : Bool) (c : Cursor) : Option (String × Cursor) :=
  match uriFrom oldRules (c.rest.length + 1) c [] with
  | none | some ([], _) => none
  | some (cs, c) => some (String.ofList cs, c)

def isHandleChar (c : Char) : Bool :=
  isAsciiLetter c || isAsciiDigit c || oneOf "-_" c

/-- A tag handle: `!`, `!!`, or a name between exclamation marks; a lone `!` only before a space. -/
def handle? (c : Cursor) : Option (String × Cursor) :=
  if c.head != '!' then none
  else if c.peek 1 == ' ' then some ("!", c.next)
  else
    let (name, c) := c.next.span isHandleChar
    if c.head == '!' then some (String.ofList ('!' :: name ++ ['!']), c.next) else none

/-- Whether a second exclamation mark stands before the next field end. -/
def hasHandle (c : Cursor) : Bool :=
  (c.next.rest.takeWhile (!endsField ·)).contains '!'

/-- The handle and suffix of a tag; the suffix is the whole tag where there is no handle. -/
def tag? (oldRules : Bool) (c : Cursor) : Option ((Option String × String) × Cursor) := do
  let (tag, c) ←
    if c.peek 1 == '<' then do
      let (suffix, c) ← uri? oldRules (c.skip 2)
      if c.head == '>' then some ((none, suffix), c.next) else none
    else if endsWord (c.peek 1) then some ((none, "!"), c.next)
    else do
      let (handle, c) ← if hasHandle c then handle? c else some ("!", c.next)
      let (suffix, c) ← uri? oldRules c
      some ((some handle, suffix), c)
  if endsField c.head then some (tag, c) else none

/-! Directives. -/

def number? (c : Cursor) : Option (Nat × Cursor) :=
  let (digits, c) := c.span isAsciiDigit
  if digits.isEmpty then none else some (digits.foldl (fun n d => n * 10 + hexValue d) 0, c)

def version? (c : Cursor) : Option (Directive × Cursor) := do
  let (major, c) ← number? c.skipSpaces
  if c.head != '.' then none
  else
    let (minor, c) ← number? c.next
    if endsField c.head then some (.version major minor, c) else none

def tagPrefix? (oldRules : Bool) (c : Cursor) : Option (Directive × Cursor) := do
  let (handle, c) ← handle? c.skipSpaces
  if c.head != ' ' then none
  else
    let (text, c) ← uri? oldRules c.skipSpaces
    if endsField c.head then some (.tagPrefix handle text, c) else none

def isDirectiveChar (c : Char) : Bool :=
  isHandleChar c || oneOf ":." c

/-- A directive line, starting at its `%`. -/
def directive? (oldRules : Bool) (c : Cursor) : Option (Directive × Cursor) := do
  let (name, c) := c.next.span isDirectiveChar
  if name.isEmpty || !endsField c.head then none
  else
    let (d, c) ←
      if name == ['Y', 'A', 'M', 'L'] then version? c
      else if name == ['T', 'A', 'G'] then tagPrefix? oldRules c
      else some (.other, c.skipWhile (!endsLine ·))
    let c := c.skipSpaces.skipComment
    if endsLine c.head then some (d, c.skipLineBreak) else none

end Property
end StageGate.Yaml
