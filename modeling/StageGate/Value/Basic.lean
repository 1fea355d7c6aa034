import StageGate.Calendar

/-! Values of documents: scalars, collections, and aliases that close a cycle. -/

namespace StageGate

/-- A document value. `enclosing n` stands for the container `n` levels up, the innermost being one. -/
inductive Value where
  | null
  | bool (b : Bool)
  | int (n : Int)
  | float (x : Float)
  | str (s : String)
  | bytes (bs : List UInt8)
  | date (d : Date)
  | timestamp (t : Timestamp)
  | list (items : List Value)
  | tuple (items : List Value)
  | set (items : List Value)
  | map (ordered : Bool) (entries : List (Value × Value))
  | enclosing (levels : Nat)
deriving Inhabited

/-- Entries in the order of the document. -/
abbrev Mapping := List (Value × Value)

namespace Value

mutual

/-- Replaces references to `container`, which lies `depth` levels above the children of `v`. -/
def unfold (container : Value) (depth : Nat) : Value → Value
  | .list items => .list (unfoldItems container (depth + 1) items)
  | .tuple items => .tuple (unfoldItems container (depth + 1) items)
  | .map ordered entries => .map ordered (unfoldEntries container (depth + 1) entries)
  | .enclosing levels => if levels == depth then container else .enclosing levels
  | v => v

def unfoldItems (container : Value) (depth : Nat) : List Value → List Value
  | [] => []
  | v :: vs => unfold container depth v :: unfoldItems container depth vs

def unfoldEntries (container : Value) (depth : Nat) : Mapping → Mapping
  | [] => []
  | (k, v) :: es => (k, unfold container depth v) :: unfoldEntries container depth es

end

/-- The entries of a mapping, aliases of the mapping itself resolved. -/
def entries? : Value → Option Mapping
  | .map ordered entries => some (unfoldEntries (.map ordered entries) 1 entries)
  | _ => none

/-- The items of a list, aliases of the list itself resolved. -/
def items? : Value → Option (List Value)
  | .list items => some (unfoldItems (.list items) 1 items)
  | _ => none

def isMap : Value → Bool
  | .map .. => true
  | _ => false

def isStr : Value → Bool
  | .str _ => true
  | _ => false

/-- Null, false, zero, and empty text or collections count as absent. -/
def isPresent : Value → Bool
  | .null => false
  | .bool b => b
  | .int n => n != 0
  | .float x => x != 0.0
  | .str s => s != ""
  | .bytes bs => !bs.isEmpty
  | .list items | .tuple items | .set items => !items.isEmpty
  | .map _ entries => !entries.isEmpty
  | .date _ | .timestamp _ | .enclosing _ => true

/-- The value itself if it counts as present, otherwise `default`. -/
def orElse (v default : Value) : Value :=
  if v.isPresent then v else default

/-- What a walk over the value meets: items, keys, single characters, or the numbers of bytes. -/
def elements? : Value → Option (List Value)
  | .list items => some (unfoldItems (.list items) 1 items)
  | .tuple items => some (unfoldItems (.tuple items) 1 items)
  | .set items => some items
  | .map _ entries => some (entries.map Prod.fst)
  | .str s => some (s.toList.map fun c => .str c.toString)
  | .bytes bs => some (bs.map fun b => .int b.toNat)
  | _ => none

/-- The word for the value's type in reports. -/
def typeWord : Value → String
  | .null => "NoneType"
  | .bool _ => "bool"
  | .int _ => "int"
  | .float _ => "float"
  | .str _ => "str"
  | .bytes _ => "bytes"
  | .date _ => "date"
  | .timestamp _ => "datetime"
  | .list _ => "list"
  | .tuple _ => "tuple"
  | .set _ => "set"
  | .map ordered _ => if ordered then "ordereddict" else "dict"
  | .enclosing _ => "dict"

end Value

namespace Mapping

/-- The value under a textual key. -/
def get? (m : Mapping) (key : String) : Option Value :=
  (m.find? fun e => match e.1 with | .str s => s == key | _ => false).map Prod.snd

/-- The value under a textual key, null if there is none. -/
def get (m : Mapping) (key : String) : Value :=
  (m.get? key).getD .null

def has (m : Mapping) (key : String) : Bool :=
  (m.get? key).isSome

end Mapping

end StageGate
