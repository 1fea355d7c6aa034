import StageGate.Value.Basic

/-!
Keys: the canonical form of values that may index a mapping, and equality of values. Numbers compare
by their value whatever their type, mappings without regard to order.
-/

namespace StageGate

/-- One atom of a key; a tuple is its length followed by the atoms of its items. -/
inductive KeyAtom where
  | null
  | number (q : Rat)
  | infinite (negative : Bool)
  | undefined
  | str (s : String)
  | bytes (bs : List UInt8)
  | date (d : Date)
  | localTime (micros : Int)
  | universalTime (micros : Int)
  | tuple (length : Nat)
deriving DecidableEq

abbrev Key := List KeyAtom

namespace Decimal

/-- The exact value of a finite float. -/
def Binary.toRat (b : Binary) : Rat :=
  let n : Nat := b.mantissa * Nat.pow 2 b.exponent.toNat
  mkRat (if b.negative then -n else n) (Nat.pow 2 (-b.exponent).toNat)

end Decimal

namespace Value

def floatAtom (x : Float) : KeyAtom :=
  match Decimal.Parts.ofFloat x with
  | .finite b => .number b.toRat
  | .infinite negative => .infinite negative
  | .undefined => .undefined

def timestampAtom (t : Timestamp) : KeyAtom :=
  if t.offset.isSome then .universalTime t.instant else .localTime t.instant

mutual

/-- The key of a value; lists, sets and mappings have none. -/
def key? : Value → Option Key
  | .null => some [.null]
  | .bool b => some [.number (if b then 1 else 0)]
  | .int n => some [.number n]
  | .float x => some [floatAtom x]
  | .str s => some [.str s]
  | .bytes bs => some [.bytes bs]
  | .date d => some [.date d]
  | .timestamp t => some [timestampAtom t]
  | .tuple items => (keys? items).map (.tuple items.length :: ·)
  | .list _ | .set _ | .map .. | .enclosing _ => none

def keys? : List Value → Option Key
  | [] => some []
  | v :: vs => do return (← key? v) ++ (← keys? vs)

end

/-- Whether two values that have keys are the same key. -/
def sameKey (v w : Value) : Bool :=
  match v.key?, w.key? with
  | some k, some l => k == l
  | _, _ => false

end Value

namespace Mapping

def find? (m : Mapping) (key : Value) : Option Value :=
  (List.find? (fun e => e.1.sameKey key) m).map Prod.snd

/-- Replaces the value under the key in place, or adds the entry at the end. -/
def insert (m : Mapping) (key value : Value) : Mapping :=
  match m with
  | [] => [(key, value)]
  | (k, v) :: es => if k.sameKey key then (k, value) :: es else (k, v) :: insert es key value

end Mapping

namespace Value

mutual

/-- Equality of values. -/
def same : Value → Value → Bool
  | .list xs, .list ys => sameItems xs ys
  | .tuple xs, .tuple ys => sameItems xs ys
  | .set xs, .set ys => xs.length == ys.length && xs.all fun x => ys.any x.sameKey
  | .map true es, .map true fs => sameOrder es fs
  | .map _ es, .map _ fs => es.length == fs.length && sameEntries es fs
  | .enclosing m, .enclosing n => m == n
  | v, w => v.sameKey w

def sameItems : List Value → List Value → Bool
  | [], [] => true
  | x :: xs, y :: ys => same x y && sameItems xs ys
  | _, _ => false

def sameOrder : Mapping → Mapping → Bool
  | [], [] => true
  | (k, v) :: es, (l, w) :: fs => k.sameKey l && same v w && sameOrder es fs
  | _, _ => false

/-- Every entry of the first mapping has an equal one in the second. -/
def sameEntries : Mapping → Mapping → Bool
  | [], _ => true
  | (k, v) :: es, fs =>
    (match fs.find? k with | some w => same v w | none => false) && sameEntries es fs

end

end Value

/-- Equality of mappings, without regard to order. -/
def Mapping.same (m n : Mapping) : Bool :=
  m.length == n.length && Value.sameEntries m n

end StageGate
