/-!
Shortest decimal text of a binary float: the fewest digits that read back to the same float, and of
those the nearest to its value.
-/

namespace StageGate.Decimal

/-- A finite float, `± mantissa · 2 ^ exponent`. -/
structure Binary where
  negative : Bool
  mantissa : Nat
  exponent : Int
  /-- The gap below a power of two is half the gap above it. -/
  narrowBelow : Bool
deriving DecidableEq, Repr

inductive Parts where
  | finite (b : Binary)
  | infinite (negative : Bool)
  | undefined
deriving DecidableEq, Repr

/-- The parts of the 64-bit word of a float. -/
def Parts.ofBits (bits : UInt64) : Parts :=
  let w : Nat := bits.toNat
  let negative := w / Nat.pow 2 63 == 1
  let field : Nat := w / Nat.pow 2 52 % 2048
  let fraction := w % Nat.pow 2 52
  if field == 2047 then
    if fraction == 0 then .infinite negative else .undefined
  else if field == 0 then .finite ⟨negative, fraction, -1074, false⟩
  else .finite ⟨negative, Nat.pow 2 52 + fraction, (field : Int) - 1075, fraction == 0 && field > 1⟩

def Parts.ofFloat (x : Float) : Parts := .ofBits x.toBits

/-- Digits and the place of the point: the value `0.d₁d₂… · 10 ^ point`. -/
structure Digits where
  digits : List Nat
  point : Int
deriving DecidableEq, Repr

/-- The decimal digits of a number, the first one first. -/
def natDigits (n : Nat) : List Nat :=
  (toString n).toList.map fun c => c.toNat - 48

/-- The interval of reals that read back as a float, over a common denominator. -/
structure Interval where
  low : Nat
  value : Nat
  high : Nat
  unit : Nat
  closed : Bool
deriving Repr

def Binary.interval (b : Binary) : Interval :=
  let shift := b.exponent.toNat
  let scale := Nat.pow 2 shift
  let below := if b.narrowBelow then 1 else 2
  { low := (4 * b.mantissa - below) * scale
    value := 4 * b.mantissa * scale
    high := (4 * b.mantissa + 2) * scale
    unit := 4 * Nat.pow 2 (-b.exponent).toNat
    closed := b.mantissa % 2 == 0 }

namespace Interval

/-- The interval measured in units of `10 ^ place`. -/
def scaled (i : Interval) (place : Int) : Interval :=
  let up := Nat.pow 10 (-place).toNat
  { i with
    low := i.low * up, value := i.value * up, high := i.high * up
    unit := i.unit * Nat.pow 10 place.toNat }

def holds (i : Interval) (n : Nat) : Bool :=
  if i.closed then i.low ≤ n * i.unit && n * i.unit ≤ i.high
  else i.low < n * i.unit && n * i.unit < i.high

/-- The grid point of the interval nearest to its value, an exact tie going to the even neighbour. -/
def nearest? (i : Interval) : Option Nat :=
  let below := i.value / i.unit
  let above := below + 1
  let gapBelow := i.value - below * i.unit
  let gapAbove := above * i.unit - i.value
  match i.holds below, i.holds above with
  | false, false => none
  | true, false => some below
  | false, true => some above
  | true, true =>
    if gapBelow < gapAbove || (gapBelow == gapAbove && below % 2 == 0) then some below
    else some above

end Interval

/-- The least `p` with `value < 10 ^ p`, searched upwards. -/
def magnitude (i : Interval) : Nat → Int → Int
  | 0, p => p
  | fuel + 1, p =>
    let s := i.scaled p
    if s.value < s.unit then p else magnitude i fuel (p + 1)

/-- Tries grids of one digit, two digits, and so on. -/
def search (i : Interval) (top : Int) : Nat → Int → Option (Nat × Int)
  | 0, _ => none
  | fuel + 1, count =>
    match (i.scaled (top - count)).nearest? with
    | some n => if n == 0 then search i top fuel (count + 1) else some (n, top - count)
    | none => search i top fuel (count + 1)

def dropTrailingZeros (ds : List Nat) : List Nat :=
  (ds.reverse.dropWhile (· == 0)).reverse

/-- The shortest digits of a finite float; zero has the single digit zero. -/
def Binary.shortest (b : Binary) : Digits :=
  if b.mantissa == 0 then ⟨[0], 1⟩
  else
    let i := b.interval
    let top := magnitude i 700 (-330)
    match search i top 18 1 with
    | none => ⟨[0], 1⟩
    | some (n, place) =>
      let ds := natDigits n
      ⟨dropTrailingZeros ds, place + ds.length⟩

end StageGate.Decimal
