import StageGate.Calendar
import StageGate.Yaml.Cursor
import StageGate.Yaml.Refusal

/-! Dates and timestamps as scalars write them. -/

namespace StageGate.Yaml
namespace Moment

structure Clock where
  hour : Nat
  minute : Nat
  second : Nat
  fraction : List Nat
  /-- Distance from universal time in minutes. -/
  offset : Option Int

structure Fields where
  date : Date
  /-- Month and day have two digits each. -/
  isWide : Bool
  clock : Option Clock

/-- A number of `least` to `most` digits and what follows. -/
def digits? (least most : Nat) (cs : List Char) : Option (List Nat × List Char) :=
  let ds := (cs.take most).takeWhile isAsciiDigit
  if ds.length < least then none else some (ds.map hexValue, cs.drop ds.length)

def number (ds : List Nat) : Nat :=
  ds.foldl (fun n d => n * 10 + d) 0

def skipBlanks (cs : List Char) : List Char :=
  cs.dropWhile fun c => c == ' ' || c == '\t'

/-- Minutes after a colon, nothing if there is no colon. -/
def offsetMinutes? : List Char → Option (Nat × List Char)
  | ':' :: cs => (digits? 2 2 cs).map fun (ds, cs) => (number ds, cs)
  | cs => some (0, cs)

/-- The zone at the end of a timestamp; outer `none` if the text is no zone. -/
def zone? (cs : List Char) : Option (Option Int) :=
  match skipBlanks cs with
  | [] => if cs.isEmpty then some none else none
  | ['Z'] => some (some 0)
  | sign :: rest =>
    if sign == '+' || sign == '-' then do
      let (hours, rest) ← digits? 1 2 rest
      let (minutes, rest) ← offsetMinutes? rest
      if !rest.isEmpty then none
      else
        let m : Int := number hours * 60 + minutes
        some (some (if sign == '-' then -m else m))
    else none

def fraction : List Char → List Nat × List Char
  | '.' :: cs => ((cs.takeWhile isAsciiDigit).map hexValue, cs.dropWhile isAsciiDigit)
  | cs => ([], cs)

def afterColon? : List Char → Option (Nat × List Char)
  | ':' :: cs => (digits? 2 2 cs).map fun (ds, cs) => (number ds, cs)
  | _ => none

/-- The time of day, after a `T` or blanks. -/
def clock? (cs : List Char) : Option Clock := do
  let cs ← match cs with
    | 'T' :: cs | 't' :: cs => some cs
    | ' ' :: cs | '\t' :: cs => some (skipBlanks cs)
    | _ => none
  let (hour, cs) ← digits? 1 2 cs
  let (minute, cs) ← afterColon? cs
  let (second, cs) ← afterColon? cs
  let (fraction, cs) := fraction cs
  let offset ← zone? cs
  return ⟨number hour, minute, second, fraction, offset⟩

def afterHyphen? : List Char → Option (List Nat × List Char)
  | '-' :: cs => digits? 1 2 cs
  | _ => none

def fields? (cs : List Char) : Option Fields := do
  let (year, cs) ← digits? 4 4 cs
  let (month, cs) ← afterHyphen? cs
  let (day, cs) ← afterHyphen? cs
  let date : Date := ⟨number year, number month, number day⟩
  let isWide := month.length == 2 && day.length == 2
  if cs.isEmpty then return ⟨date, isWide, none⟩
  else
    let clock ← clock? cs
    return ⟨date, isWide, some clock⟩

/-- Whether an untagged scalar is a date or a timestamp; a bare date has two-digit fields. -/
def isMoment (cs : List Char) : Bool :=
  (fields? cs).any fun f => f.clock.isSome || f.isWide

/-- Microseconds, a half rounded up on the seventh digit; a whole second is carried. -/
def micros (ds : List Nat) : Nat :=
  number ((ds ++ List.replicate 6 0).take 6) + if ds.getD 6 0 > 4 then 1 else 0

/-- The moment that a scalar states; it has to exist. -/
def read (cs : List Char) : Except Refusal (Date ⊕ Timestamp) :=
  match fields? cs with
  | none => .error .malformed
  | some ⟨date, _, none⟩ =>
    if date.exists? then .ok (.inl date) else .error (.mismatch .badValue)
  | some ⟨date, _, some c⟩ =>
    let micro := micros c.fraction
    let t : Timestamp := ⟨date, c.hour, c.minute, c.second, micro % 1000000, c.offset⟩
    if !t.exists? then .error (.mismatch .badValue)
    else if micro < 1000000 then .ok (.inr t)
    else if t.nextSecond.exists? then .ok (.inr t.nextSecond)
    else .error (.mismatch .outOfRange)

end Moment
end StageGate.Yaml
