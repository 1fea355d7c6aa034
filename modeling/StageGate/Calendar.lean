import StageGate.Decimal.Layout

/-! Calendar dates and timestamps: which exist, which are the same moment, and how they are written. -/

namespace StageGate

structure Date where
  year : Nat
  month : Nat
  day : Nat
deriving DecidableEq, Repr, Inhabited

namespace Date

def isLeap (year : Nat) : Bool :=
  year % 4 == 0 && (year % 100 != 0 || year % 400 == 0)

def daysIn (year month : Nat) : Nat :=
  match month with
  | 2 => if isLeap year then 29 else 28
  | 4 | 6 | 9 | 11 => 30
  | _ => 31

def exists? (d : Date) : Bool :=
  1 ≤ d.year && d.year ≤ 9999 && 1 ≤ d.month && d.month ≤ 12 && 1 ≤ d.day &&
    d.day ≤ daysIn d.year d.month

/-- Days since the first day of year one. -/
def ordinal (d : Date) : Nat :=
  let y := d.year - 1
  let before := (List.range (d.month - 1)).foldl (fun n m => n + daysIn d.year (m + 1)) 0
  y * 365 + y / 4 - y / 100 + y / 400 + before + (d.day - 1)

def next (d : Date) : Date :=
  if d.day < daysIn d.year d.month then { d with day := d.day + 1 }
  else if d.month < 12 then ⟨d.year, d.month + 1, 1⟩
  else ⟨d.year + 1, 1, 1⟩

end Date

/-- A moment of a day; `offset` is its distance from universal time in minutes, if it states one. -/
structure Timestamp where
  date : Date
  hour : Nat
  minute : Nat
  second : Nat
  micro : Nat
  offset : Option Int
deriving DecidableEq, Repr, Inhabited

namespace Timestamp

def exists? (t : Timestamp) : Bool :=
  t.date.exists? && t.hour < 24 && t.minute < 60 && t.second < 60 && t.micro < 1000000 &&
    t.offset.all fun m => m.natAbs < 1440

def secondOfDay (t : Timestamp) : Nat :=
  t.hour * 3600 + t.minute * 60 + t.second

/-- Microseconds since the start of year one, in universal time where an offset is stated. -/
def instant (t : Timestamp) : Int :=
  let seconds : Int := t.date.ordinal * 86400 + t.secondOfDay
  (seconds - t.offset.getD 0 * 60) * 1000000 + t.micro

def nextSecond (t : Timestamp) : Timestamp :=
  let s := t.secondOfDay + 1
  let date := if s == 86400 then t.date.next else t.date
  let s := s % 86400
  { t with date, hour := s / 3600, minute := s / 60 % 60, second := s % 60 }

end Timestamp

namespace Calendar
open Decimal (padLeft)

def field (width n : Nat) : String :=
  String.ofList (padLeft width '0' (toString n).toList)

end Calendar

open Calendar (field)

def Date.text (d : Date) : String :=
  field 4 d.year ++ "-" ++ field 2 d.month ++ "-" ++ field 2 d.day

def Timestamp.offsetText : Option Int → String
  | none => ""
  | some m =>
    (if m < 0 then "-" else "+") ++ field 2 (m.natAbs / 60) ++ ":" ++ field 2 (m.natAbs % 60)

/-- Date and time of day with `separator` between them; microseconds only where there are any. -/
def Timestamp.text (separator : String) (t : Timestamp) : String :=
  t.date.text ++ separator ++ field 2 t.hour ++ ":" ++ field 2 t.minute ++ ":" ++ field 2 t.second ++
    (if t.micro == 0 then "" else "." ++ field 6 t.micro) ++ offsetText t.offset

end StageGate
