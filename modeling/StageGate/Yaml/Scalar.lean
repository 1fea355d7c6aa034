import StageGate.Yaml.Cursor
import StageGate.Yaml.Refusal

/-! Scalars as they stand in a text: plain, quoted, and block scalars, with their line folding. -/

namespace StageGate.Yaml
namespace Scalar

/-- What folding makes of a line break and the empty lines after it. -/
def fold (first : Char) (breaks : List Char) : List Char :=
  (if first != '\n' then [first] else if breaks.isEmpty then [' '] else []) ++ breaks

/-! Plain scalars. -/

/-- Whether a plain scalar stops before `c`, which `following` comes after. -/
def endsPlain (oldRules inFlow : Bool) (c following : Char) : Bool :=
  if c == ':' && !endsWord following then false
  else if c == '?' && !oldRules then false
  else endsWord c || (!inFlow && c == ':' && endsWord following) ||
    (inFlow && oneOf ",:?[]\x7b\x7d" c)

def plainRun (oldRules inFlow : Bool) : List Char → List Char
  | [] => []
  | c :: rest =>
    if endsPlain oldRules inFlow c (rest.headD endMark) then []
    else c :: plainRun oldRules inFlow rest

structure Gap where
  /-- Empty if the scalar ends here. -/
  chars : List Char
  brokeLine : Bool
  cursor : Cursor

/-- The empty lines after the first line break; stops for good at a document boundary. -/
def plainBreaks : Nat → Cursor → List Char → Option (List Char) × Cursor
  | 0, c, acc => (some acc, c)
  | fuel + 1, c, acc =>
    if c.head == ' ' then plainBreaks fuel c.next acc
    else
      match c.lineBreak? with
      | none => (some acc, c)
      | some (b, c) =>
        if c.atBoundary then (none, c) else plainBreaks fuel c (acc ++ [b])

/-- The space between two runs of a plain scalar. -/
def plainGap (c : Cursor) : Gap :=
  let (blanks, c) := c.span (· == ' ')
  match c.lineBreak? with
  | none => ⟨blanks, false, c⟩
  | some (first, c) =>
    if c.atBoundary then ⟨[], true, c⟩
    else
      match plainBreaks (c.rest.length + 1) c [] with
      | (none, c) => ⟨[], true, c⟩
      | (some breaks, c) => ⟨fold first breaks, true, c⟩

structure Plain where
  chars : List Char
  /-- Whether the scalar was left at the start of a line. -/
  brokeLine : Bool
  cursor : Cursor

def plainFrom (oldRules inFlow : Bool) (indent : Int) :
    Nat → Cursor → List Char → List Char → Bool → Plain
  | 0, c, acc, _, broke => ⟨acc, broke, c⟩
  | fuel + 1, c, acc, gap, broke =>
    let run := if c.head == '#' then [] else plainRun oldRules inFlow c.rest
    if run.isEmpty then ⟨acc, broke, c⟩
    else
      let acc := acc ++ gap ++ run
      let g := plainGap (c.skip run.length)
      if g.chars.isEmpty || g.cursor.head == '#' || (!inFlow && g.cursor.column < indent) then
        ⟨acc, g.brokeLine, g.cursor⟩
      else plainFrom oldRules inFlow indent fuel g.cursor acc g.chars g.brokeLine

/-- A plain scalar; its lines are indented by at least `indent` outside flow collections. -/
def plain (oldRules inFlow : Bool) (indent : Int) (c : Cursor) : Plain :=
  plainFrom oldRules inFlow indent (c.rest.length + 1) c [] [] false

/-! Quoted scalars. -/

def shortEscape? : Char → Option Char
  | '0' => some '\x00'
  | 'a' => some '\x07'
  | 'b' => some '\x08'
  | 't' => some '\t'
  | '\t' => some '\t'
  | 'n' => some '\n'
  | 'v' => some '\x0b'
  | 'f' => some '\x0c'
  | 'r' => some '\r'
  | 'e' => some '\x1b'
  | ' ' => some ' '
  | '"' => some '"'
  | '/' => some '/'
  | '\\' => some '\\'
  | 'N' => some '\u0085'
  | '_' => some '\u00A0'
  | 'L' => some '\u2028'
  | 'P' => some '\u2029'
  | _ => none

def codeWidth? : Char → Option Nat
  | 'x' => some 2
  | 'u' => some 4
  | 'U' => some 8
  | _ => none

def hexNumber (cs : List Char) : Nat :=
  cs.foldl (fun n c => n * 16 + hexValue c) 0

/-- Line breaks and the blanks before and after them; a document boundary is refused. -/
def quotedBreaks : Nat → Cursor → List Char → Except Refusal (List Char × Cursor)
  | 0, c, acc => .ok (acc, c)
  | fuel + 1, c, acc =>
    if c.atBoundary then .error .malformed
    else
      let c := c.skipWhile fun ch => ch == ' ' || ch == '\t'
      match c.lineBreak? with
      | none => .ok (acc, c)
      | some (b, c) => quotedBreaks fuel c (acc ++ [b])

/-- The character of a code; a surrogate, which no text here can hold, becomes U+FFFD. -/
def charOfCode (code : Nat) : Except Mismatch Char :=
  if code > 0x7FFFFFFF then .error .outOfRange
  else if code > 0x10FFFF then .error .badValue
  else if 0xD800 ≤ code && code ≤ 0xDFFF then .ok '\uFFFD'
  else .ok (Char.ofNat code)

/-- An escape sequence, the backslash already taken. -/
def escape (fuel : Nat) (c : Cursor) : Except Refusal (List Char × Cursor) :=
  match shortEscape? c.head, codeWidth? c.head with
  | some e, _ => .ok ([e], c.next)
  | none, some width =>
    let code := c.next.rest.take width
    if code.length == width && code.all isHexDigit then do
      let ch ← (charOfCode (hexNumber code)).mapError .mismatch
      return ([ch], c.skip (width + 1))
    else .error .malformed
  | none, none =>
    match c.lineBreak? with
    | none => .error .malformed
    | some (_, c) => quotedBreaks fuel c []

/-- The blanks and line breaks inside a quoted scalar. -/
def quotedGap (fuel : Nat) (c : Cursor) : Except Refusal (List Char × Cursor) :=
  let (blanks, c) := c.span fun ch => ch == ' ' || ch == '\t'
  if c.rest.isEmpty then .error .malformed
  else
    match c.lineBreak? with
    | none => .ok (blanks, c)
    | some (first, c) => do
      let (breaks, c) ← quotedBreaks fuel c []
      return (fold first breaks, c)

def quotedFrom (isDouble : Bool) : Nat → Cursor → List Char → Except Refusal (List Char × Cursor)
  | 0, _, _ => .error .malformed
  | fuel + 1, c, acc =>
    let ch := c.head
    if c.rest.isEmpty then .error .malformed
    else if !isDouble && ch == '\'' && c.peek 1 == '\'' then
      quotedFrom isDouble fuel (c.skip 2) (acc ++ ['\''])
    else if ch == (if isDouble then '"' else '\'') then .ok (acc, c.next)
    else if isDouble && ch == '\\' then do
      let (e, c) ← escape (fuel + 1) c.next
      quotedFrom isDouble fuel c (acc ++ e)
    else if ch == ' ' || ch == '\t' || isBreak ch then do
      let (g, c) ← quotedGap (fuel + 1) c
      quotedFrom isDouble fuel c (acc ++ g)
    else
      let (run, c) := c.span fun ch => !(oneOf " '\"\\\t" ch || isBreak ch)
      if run.isEmpty then quotedFrom isDouble fuel c.next (acc ++ [ch])
      else quotedFrom isDouble fuel c (acc ++ run)

/-- A quoted scalar, starting at its opening quote. -/
def quoted (c : Cursor) : Except Refusal (List Char × Cursor) :=
  quotedFrom (c.head == '"') (c.rest.length + 1) c.next []

/-! Block scalars. -/

inductive Chomping where
  | clip
  | keep
  | strip
deriving DecidableEq

structure BlockHeader where
  chomping : Chomping
  increment : Option Nat
  cursor : Cursor

def chompingMark? : Char → Option Chomping
  | '+' => some .keep
  | '-' => some .strip
  | _ => none

def incrementMark? (c : Char) : Option Nat :=
  if isAsciiDigit c then some (hexValue c) else none

/-- The chomping and indentation marks in either order, then the rest of the line. -/
def blockHeader? (c : Cursor) : Option BlockHeader :=
  let (chomping, increment, c) :=
    match chompingMark? c.head with
    | some m =>
      match incrementMark? (c.peek 1) with
      | some n => (some m, some n, c.skip 2)
      | none => (some m, none, c.next)
    | none =>
      match incrementMark? c.head with
      | some n =>
        match chompingMark? (c.peek 1) with
        | some m => (some m, some n, c.skip 2)
        | none => (none, some n, c.next)
      | none => (none, none, c)
  if increment == some 0 || !endsField c.head then none
  else
    let c := c.skipSpaces.skipComment
    if endsLine c.head then some ⟨chomping.getD .clip, increment, c.skipLineBreak⟩ else none

/-- The empty lines at the start of a block, and the deepest column that spaces reach. -/
def blockStart : Nat → Cursor → List Char → Nat → List Char × Nat × Cursor
  | 0, c, acc, deepest => (acc, deepest, c)
  | fuel + 1, c, acc, deepest =>
    if c.head == ' ' then blockStart fuel c.next acc (max deepest c.next.column)
    else
      match c.lineBreak? with
      | none => (acc, deepest, c)
      | some (b, c) => blockStart fuel c (acc ++ [b]) deepest

def skipIndent : Nat → Nat → Cursor → Cursor
  | 0, _, c => c
  | fuel + 1, indent, c =>
    if c.column < indent && c.head == ' ' then skipIndent fuel indent c.next else c

/-- Empty lines inside a block, and the indentation of the line after them. -/
def blockBreaks (indent : Nat) : Nat → Cursor → List Char → List Char × Cursor
  | 0, c, acc => (acc, c)
  | fuel + 1, c, acc =>
    let c := skipIndent indent indent c
    match c.lineBreak? with
    | none => (acc, c)
    | some (b, c) => blockBreaks indent fuel c (acc ++ [b])

structure Block where
  chars : List Char
  lastBreak : List Char
  breaks : List Char
  cursor : Cursor

/-- The lines of a block of the given indentation. -/
def blockLines (folded atRoot : Bool) (indent : Nat) :
    Nat → Cursor → List Char → List Char → List Char → Block
  | 0, c, acc, lastBreak, breaks => ⟨acc, lastBreak, breaks, c⟩
  | fuel + 1, c, acc, lastBreak, breaks =>
    if c.column != indent || c.rest.isEmpty then ⟨acc, lastBreak, breaks, c⟩
    else
      let flush := !(c.head == ' ' || c.head == '\t')
      let (line, c) := c.span (!endsLine ·)
      let acc := acc ++ breaks ++ line
      let (lastBreak, c) := match c.lineBreak? with
        | some (b, c) => ([b], c)
        | none => ([], c)
      let (breaks, c) := blockBreaks indent (c.rest.length + 1) c []
      if atRoot && c.column == 0 && c.atBoundary then ⟨acc, lastBreak, breaks, c⟩
      else if c.column != indent || c.rest.isEmpty then ⟨acc, lastBreak, breaks, c⟩
      else if folded && lastBreak == ['\n'] && flush && !(c.head == ' ' || c.head == '\t') then
        blockLines folded atRoot indent fuel c (if breaks.isEmpty then acc ++ [' '] else acc)
          lastBreak breaks
      else blockLines folded atRoot indent fuel c (acc ++ lastBreak) lastBreak breaks

/-- A block scalar inside a collection of the given indentation, starting at its `|` or `>`. -/
def block? (parentIndent : Int) (c : Cursor) : Option (List Char × Cursor) := do
  let folded := c.head == '>'
  let h ← blockHeader? c.next
  let least := (parentIndent + 1).toNat
  let fuel := h.cursor.rest.length + 1
  let (indent, breaks, c) := match h.increment with
    | none =>
      let (breaks, deepest, c) := blockStart fuel h.cursor [] 0
      (max least deepest, breaks, c)
    | some n =>
      let indent := max least 1 + n - 1
      let (breaks, c) := blockBreaks indent fuel h.cursor []
      (indent, breaks, c)
  let b := blockLines folded (least == 0) indent (c.rest.length + 1) c [] [] breaks
  let trailing := match h.chomping with
    | .strip => []
    | .clip => b.lastBreak
    | .keep => b.lastBreak ++ b.breaks
  return (b.chars ++ trailing, b.cursor)

end Scalar
end StageGate.Yaml
