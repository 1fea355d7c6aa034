import StageGate.Decimal.Reading
import StageGate.Text.Base64
import StageGate.Value.Basic
import StageGate.Yaml.Tag

/-! The values of scalars, by type. -/

namespace StageGate.Yaml
namespace Typed
open Decimal (readInt? readFloat?)

def orBadValue {α : Type} (r : Option α) : Except Refusal α :=
  match r with
  | some a => .ok a
  | none => .error (.mismatch .badValue)

/-- Underscores only space the digits out. -/
def dense (s : String) : List Char :=
  s.toList.filter (· != '_')

/-- The sign of a number and its magnitude; the empty text has neither. -/
def signed (cs : List Char) : Except Refusal (Bool × List Char) :=
  if cs.isEmpty then .error (.mismatch .emptyText) else .ok (Decimal.splitSign cs)

def splitOn (c : Char) : List Char → List (List Char)
  | [] => [[]]
  | x :: xs =>
    match splitOn c xs with
    | [] => [[x]]
    | part :: parts => if x == c then [] :: part :: parts else (x :: part) :: parts

def magnitude (oldRules : Bool) : List Char → Except Refusal Int
  | '0' :: 'b' :: cs => orBadValue (readInt? 2 cs)
  | '0' :: 'x' :: cs => orBadValue (readInt? 16 cs)
  | '0' :: 'o' :: cs => orBadValue (readInt? 8 cs)
  | cs =>
    if !oldRules || cs == ['0'] then orBadValue (readInt? 10 cs)
    else
      match cs with
      | [] => .error (.mismatch .emptyText)
      | '0' :: _ => orBadValue (readInt? 8 cs)
      | _ => do
        let parts ← (splitOn ':' cs).mapM fun part => orBadValue (readInt? 10 part)
        return parts.foldl (fun n d => n * 60 + d) 0

def int (oldRules : Bool) (s : String) : Except Refusal Value := do
  let (negative, body) ← signed (dense s)
  let n ← magnitude oldRules body
  return .int (if negative then -n else n)

/-- Parts below sixty, each worth sixty times the next; the last part counts first. -/
def sixtieths (parts : List Float) : Float :=
  (parts.reverse.foldl (fun (sum, base) d => (sum + d * base, base * 60.0)) (0.0, 1.0)).1

def float (oldRules : Bool) (s : String) : Except Refusal Value := do
  let (negative, body) ← signed ((dense s).map Char.toLower)
  let x ←
    if body == ['.', 'i', 'n', 'f'] then .ok Decimal.infinity
    else if body == ['.', 'n', 'a', 'n'] then .ok Decimal.undefinedNumber
    else if oldRules && body.contains ':' then do
      let parts ← (splitOn ':' body).mapM fun part => orBadValue (readFloat? part)
      .ok (sixtieths parts)
    else orBadValue (readFloat? body)
  return .float (if negative then -x else x)

def bool (s : String) : Except Refusal Value :=
  let word := s.toLower
  if ["yes", "y", "true", "on"].contains word then .ok (.bool true)
  else if ["no", "n", "false", "off"].contains word then .ok (.bool false)
  else .error (.mismatch .missingKey)

def binary (s : String) : Except Refusal Value :=
  let cs := s.toList
  if cs.all fun c => c.toNat < 128 then
    match Text.base64? cs with
    | some bs => .ok (.bytes bs)
    | none => .error .malformed
  else .error .malformed

def timestamp (s : String) : Except Refusal Value :=
  (Moment.read s.toList).map fun
    | .inl d => .date d
    | .inr t => .timestamp t

end Typed

/-- The value of a scalar of a type; types of collections and of keys have none. -/
def Tag.valueOf (oldRules : Bool) (tag : Tag) (s : String) : Except Refusal Value :=
  match tag with
  | .str => .ok (.str s)
  | .int => Typed.int oldRules s
  | .float => Typed.float oldRules s
  | .bool => Typed.bool s
  | .null => .ok .null
  | .binary => Typed.binary s
  | .timestamp => Typed.timestamp s
  | .set | .omap | .pairs | .map | .seq | .merge | .value | .foreign => .error .malformed

end StageGate.Yaml
