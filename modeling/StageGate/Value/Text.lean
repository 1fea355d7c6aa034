import StageGate.Decimal.Reading
import StageGate.Value.Basic
import StageGate.Text.Quoted

/-!
Values inside messages: text stands bare, everything else as a literal. An integer with too many digits has
no text, and neither has a value that it is part of.
-/

namespace StageGate

def commaSeparated (parts : List String) : String :=
  ", ".intercalate parts

def Date.literal (d : Date) : String :=
  "datetime.date(" ++ commaSeparated [toString d.year, toString d.month, toString d.day] ++ ")"

namespace Timestamp

def zoneLiteral (minutes : Int) : String :=
  let seconds := minutes * 60
  if minutes == 0 then "datetime.timezone.utc"
  else
    let delta :=
      if seconds < 0 then "days=-1, seconds=" ++ toString (86400 + seconds)
      else "seconds=" ++ toString seconds
    "datetime.timezone(datetime.timedelta(" ++ delta ++ "))"

/-- Trailing zero seconds and microseconds are left out. -/
def literal (t : Timestamp) : String :=
  let clock :=
    if t.micro != 0 then [t.hour, t.minute, t.second, t.micro]
    else if t.second != 0 then [t.hour, t.minute, t.second]
    else [t.hour, t.minute]
  let fields := ([t.date.year, t.date.month, t.date.day] ++ clock).map toString
  let zone := match t.offset with | none => [] | some m => ["tzinfo=" ++ zoneLiteral m]
  "datetime.datetime(" ++ commaSeparated (fields ++ zone) ++ ")"

end Timestamp

namespace Value

def boolText (b : Bool) : String :=
  if b then "True" else "False"

mutual

/-- The literal of a value; `outer` holds the short forms of the containers around it, innermost first. -/
def literalIn (outer : List String) : Value → String
  | .null => "None"
  | .bool b => boolText b
  | .int n => toString n
  | .float x => Decimal.floatText x
  | .str s => Text.quoted s
  | .bytes bs => Text.quotedBytes bs
  | .date d => d.literal
  | .timestamp t => t.literal
  | .list items => "[" ++ commaSeparated (literals ("[...]" :: outer) items) ++ "]"
  | .tuple [] => "()"
  | .tuple [item] => "(" ++ literalIn ("(...)" :: outer) item ++ ",)"
  | .tuple items => "(" ++ commaSeparated (literals ("(...)" :: outer) items) ++ ")"
  | .set [] => "set()"
  | .set items => "\x7b" ++ commaSeparated (literals outer items) ++ "\x7d"
  | .map false entries =>
    "\x7b" ++ commaSeparated (entryLiterals ("\x7b...\x7d" :: outer) entries) ++ "\x7d"
  | .map true [] => "ordereddict()"
  | .map true entries =>
    "ordereddict([" ++ commaSeparated (pairLiterals ("..." :: outer) entries) ++ "])"
  | .enclosing levels => outer.getD (levels - 1) "..."

def literals (outer : List String) : List Value → List String
  | [] => []
  | v :: vs => literalIn outer v :: literals outer vs

def entryLiterals (outer : List String) : Mapping → List String
  | [] => []
  | (k, v) :: es => (literalIn outer k ++ ": " ++ literalIn outer v) :: entryLiterals outer es

def pairLiterals (outer : List String) : Mapping → List String
  | [] => []
  | (k, v) :: es =>
    ("(" ++ literalIn outer k ++ ", " ++ literalIn outer v ++ ")") :: pairLiterals outer es

end

def literal (v : Value) : String :=
  v.literalIn []

mutual

/-- Whether the value has a text. -/
def isWritable : Value → Bool
  | .int n => n.natAbs < Nat.pow 10 Decimal.digitLimit
  | .list items | .tuple items | .set items => areWritable items
  | .map _ entries => hasWritable entries
  | _ => true

def areWritable : List Value → Bool
  | [] => true
  | v :: vs => isWritable v && areWritable vs

def hasWritable : Mapping → Bool
  | [] => true
  | (k, v) :: es => isWritable k && isWritable v && hasWritable es

end

/-- The text of a value in a message; what is not writable makes no message. -/
def display : Value → String
  | .str s => s
  | .date d => d.text
  | .timestamp t => t.text " "
  | v => v.literal

end Value

end StageGate
