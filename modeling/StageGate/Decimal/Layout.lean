import StageGate.Decimal.Shortest

/-! How numbers are written: the choice between positional and exponent form, and the words for no number. -/

namespace StageGate.Decimal

/-- The decisions of a number format. -/
structure Layout where
  /-- Decimal exponents written positionally, both ends included. -/
  leastExponent : Int
  greatestExponent : Int
  exponentWidth : Nat
  infinite : String
  undefined : String

/-- Positional from `0.0001` up to below `10 ^ 16`, otherwise a signed exponent of at least two digits. -/
def plain : Layout := ⟨-4, 15, 2, "inf", "nan"⟩

def digitChars (ds : List Nat) : List Char :=
  ds.map Nat.digitChar

def padLeft (width : Nat) (c : Char) (cs : List Char) : List Char :=
  List.replicate (width - cs.length) c ++ cs

namespace Layout

/-- Positional form always shows a digit on both sides of the point. -/
def positional (d : Digits) : List Char :=
  if d.point ≤ 0 then
    '0' :: '.' :: (List.replicate (-d.point).toNat '0' ++ digitChars d.digits)
  else
    let whole := d.point.toNat
    let front := d.digits.take whole
    let back := d.digits.drop whole
    digitChars front ++ List.replicate (whole - front.length) '0' ++
      '.' :: (if back.isEmpty then ['0'] else digitChars back)

def scientific (l : Layout) (d : Digits) : List Char :=
  let e := d.point - 1
  let body := match digitChars d.digits with
    | [] => []
    | [c] => [c]
    | c :: cs => c :: '.' :: cs
  body ++ 'e' :: (if e < 0 then '-' else '+') :: padLeft l.exponentWidth '0' (toString e.natAbs).toList

def digits (l : Layout) (d : Digits) : List Char :=
  let e := d.point - 1
  if l.leastExponent ≤ e && e ≤ l.greatestExponent then positional d else l.scientific d

def render (l : Layout) : Parts → String
  | .undefined => l.undefined
  | .infinite negative => if negative then "-" ++ l.infinite else l.infinite
  | .finite b => String.ofList ((if b.negative then ['-'] else []) ++ l.digits b.shortest)

end Layout

/-- The text of a float: the fewest digits that read back, in the plain layout. -/
def floatText (x : Float) : String :=
  plain.render (.ofFloat x)

end StageGate.Decimal
