/-! Positions in a text: the characters left, and the line and column reached. -/

namespace StageGate.Yaml

/-- Stands for the end of the text, which never holds this character. -/
def endMark : Char := '\x00'

def oneOf (s : String) (c : Char) : Bool :=
  s.toList.contains c

/-- The end of a line or of the text. -/
def endsLine (c : Char) : Bool :=
  c == '\n' || c == '\r' || c == '\x85' || c == endMark

/-- The end of a line, of the text, or of a word. -/
def endsWord (c : Char) : Bool :=
  endsLine c || c == ' ' || c == '\t'

def isBreak (c : Char) : Bool :=
  c == '\n' || c == '\r' || c == '\x85' || c == '\u2028' || c == '\u2029'

/-- The end of a line in the wide sense, of the text, or a space. -/
def endsField (c : Char) : Bool :=
  c == endMark || c == ' ' || isBreak c

def isAsciiLetter (c : Char) : Bool :=
  ('a' ≤ c && c ≤ 'z') || ('A' ≤ c && c ≤ 'Z')

def isAsciiDigit (c : Char) : Bool :=
  '0' ≤ c && c ≤ '9'

def isHexDigit (c : Char) : Bool :=
  isAsciiDigit c || ('a' ≤ c && c ≤ 'f') || ('A' ≤ c && c ≤ 'F')

def hexValue (c : Char) : Nat :=
  if isAsciiDigit c then c.toNat - '0'.toNat
  else c.toLower.toNat - 'a'.toNat + 10

/-- Characters that a text may hold at all. -/
def isAllowed (c : Char) : Bool :=
  let n := c.toNat
  n == 0x09 || n == 0x0A || n == 0x0D || (0x20 ≤ n && n ≤ 0x7E) || n == 0x85 ||
    (0xA0 ≤ n && n ≤ 0xFFFD) || 0x10000 ≤ n

structure Cursor where
  rest : List Char
  index : Nat
  line : Nat
  column : Nat

namespace Cursor

def start (text : String) : Cursor :=
  ⟨text.toList, 0, 0, 0⟩

/-- The character `n` places ahead. -/
def peek (c : Cursor) (n : Nat) : Char :=
  c.rest.getD n endMark

def head (c : Cursor) : Char :=
  c.peek 0

/-- Moves over one character; a byte order mark takes no column. -/
def next (c : Cursor) : Cursor :=
  match c.rest with
  | [] => c
  | ch :: rest =>
    let newLine := ch == '\n' || (ch == '\r' && rest.head? != some '\n')
    { rest
      index := c.index + 1
      line := if newLine then c.line + 1 else c.line
      column := if newLine then 0 else if ch == '\uFEFF' then c.column else c.column + 1 }

def skip : Nat → Cursor → Cursor
  | 0, c => c
  | n + 1, c => skip n c.next

/-- The characters ahead that satisfy `p`, and the place after them. -/
def span (c : Cursor) (p : Char → Bool) : List Char × Cursor :=
  let taken := c.rest.takeWhile p
  (taken, c.skip taken.length)

def skipWhile (c : Cursor) (p : Char → Bool) : Cursor :=
  (c.span p).2

def skipSpaces (c : Cursor) : Cursor :=
  c.skipWhile (· == ' ')

/-- Takes a line break; the common ones count as a line feed. -/
def lineBreak? (c : Cursor) : Option (Char × Cursor) :=
  let ch := c.head
  if ch == '\r' && c.peek 1 == '\n' then some ('\n', c.skip 2)
  else if ch == '\r' || ch == '\n' || ch == '\x85' then some ('\n', c.next)
  else if isBreak ch then some (ch, c.next)
  else none

def skipLineBreak (c : Cursor) : Cursor :=
  match c.lineBreak? with
  | some (_, c) => c
  | none => c

/-- Skips a comment up to the end of its line. -/
def skipComment (c : Cursor) : Cursor :=
  if c.head == '#' then c.skipWhile (!endsLine ·) else c

/-- Whether three equal marks and a word end stand here. -/
def marks (c : Cursor) (mark : Char) : Bool :=
  c.peek 0 == mark && c.peek 1 == mark && c.peek 2 == mark && endsWord (c.peek 3)

/-- Whether a document boundary stands here, at the start of a line. -/
def atBoundary (c : Cursor) : Bool :=
  c.marks '-' || c.marks '.'

end Cursor

end StageGate.Yaml
