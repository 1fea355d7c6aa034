import StageGate.Text.Blank
import StageGate.Text.Digit
import StageGate.Decimal.Shortest

/-!
Reading numbers: white space around, a sign, digits of any script, and single underscores between digits.
-/

namespace StageGate.Decimal
open StageGate.Text

/-- The most decimal digits that a number may be read from, and that an integer may be written with. -/
def digitLimit : Nat := 4300

/-- The white space around a number: blanks, but for the information separators. -/
def isSpace (c : Char) : Bool :=
  isBlank c && !(0x1C ≤ c.toNat && c.toNat ≤ 0x1F)

def letterValue? (c : Char) : Option Nat :=
  if 'a' ≤ c ∧ c ≤ 'z' then some (c.toNat - 'a'.toNat + 10)
  else if 'A' ≤ c ∧ c ≤ 'Z' then some (c.toNat - 'A'.toNat + 10)
  else none

def digitIn? (base : Nat) (c : Char) : Option Nat :=
  (digitValue? c <|> letterValue? c).filter (· < base)

/-- A run of digits in which single underscores may stand between two digits. -/
def spacedDigits? (base : Nat) : List Char → Option (List Nat)
  | [] => none
  | [c] => (digitIn? base c).map ([·])
  | c :: '_' :: rest => do return (← digitIn? base c) :: (← spacedDigits? base rest)
  | c :: rest => do return (← digitIn? base c) :: (← spacedDigits? base rest)

def ofDigits (base : Nat) (ds : List Nat) : Nat :=
  ds.foldl (fun n d => n * base + d) 0

/-- The sign and what follows it. -/
def splitSign : List Char → Bool × List Char
  | '-' :: cs => (true, cs)
  | '+' :: cs => (false, cs)
  | cs => (false, cs)

def baseMark? : Nat → Option Char
  | 2 => some 'b'
  | 8 => some 'o'
  | 16 => some 'x'
  | _ => none

/-- Drops a base mark such as `0x`, and one underscore after it. -/
def dropMark (base : Nat) : List Char → List Char
  | '0' :: m :: rest =>
    if baseMark? base == some m.toLower then
      match rest with
      | '_' :: rest => rest
      | rest => rest
    else '0' :: m :: rest
  | cs => cs

/-- An integer in a base; `none` if the text is no such number. -/
def readInt? (base : Nat) (cs : List Char) : Option Int :=
  let (negative, body) := splitSign (trimOf isSpace cs)
  match spacedDigits? base (dropMark base body) with
  | none => none
  | some ds =>
    if base == 10 && ds.length > digitLimit then none
    else
      let n := ofDigits base ds
      some (if negative then -n else n)

def infinity : Float := 1.0 / 0.0
def undefinedNumber : Float := 0.0 / 0.0

/-- The float nearest to `digits · 10 ^ exponent`. -/
def nearestFloat (digits : List Nat) (exponent : Int) : Float :=
  let n := ofDigits 10 digits
  let top := exponent + (toString n).length
  if n == 0 || top < -330 then 0.0
  else if top > 310 then infinity
  else Float.ofScientific n (exponent < 0) exponent.natAbs

/-- Digits on either side of an optional point, at least one of them. -/
def pointed? (cs : List Char) : Option (List Nat × Nat) :=
  let whole := cs.takeWhile (· != '.')
  match cs.dropWhile (· != '.') with
  | [] => (spacedDigits? 10 whole).map (·, 0)
  | _ :: fraction =>
    match whole, fraction with
    | [], [] => none
    | [], f => (spacedDigits? 10 f).map fun ds => (ds, ds.length)
    | w, [] => (spacedDigits? 10 w).map (·, 0)
    | w, f => do
      let front ← spacedDigits? 10 w
      let back ← spacedDigits? 10 f
      return (front ++ back, back.length)

def readMagnitude? (cs : List Char) : Option Float :=
  let isMark (c : Char) := c == 'e' || c == 'E'
  let mantissa := cs.takeWhile (!isMark ·)
  match pointed? mantissa, cs.dropWhile (!isMark ·) with
  | none, _ => none
  | some (ds, places), [] => some (nearestFloat ds (-places))
  | some (ds, places), _ :: e =>
    let (negative, body) := splitSign e
    (spacedDigits? 10 body).map fun eds =>
      let n : Int := ofDigits 10 eds
      nearestFloat ds ((if negative then -n else n) - places)

/-- A float; also the words for infinity and for no number, in any case. -/
def readFloat? (cs : List Char) : Option Float :=
  let (negative, body) := splitSign (trimOf isSpace cs)
  let word := String.ofList (body.map Char.toLower)
  let magnitude :=
    if word == "inf" || word == "infinity" then some infinity
    else if word == "nan" then some undefinedNumber
    else readMagnitude? body
  magnitude.map fun x => if negative then -x else x

/-- The integer part of a finite float. -/
def Binary.truncate (b : Binary) : Int :=
  let n : Nat := b.mantissa * Nat.pow 2 b.exponent.toNat / Nat.pow 2 (-b.exponent).toNat
  if b.negative then -n else n

end StageGate.Decimal
