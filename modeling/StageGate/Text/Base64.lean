/-! Base64 read leniently: foreign characters are skipped, and a complete padding ends the data. -/

namespace StageGate.Text

def sextet? (c : Char) : Option Nat :=
  if 'A' ≤ c ∧ c ≤ 'Z' then some (c.toNat - 65)
  else if 'a' ≤ c ∧ c ≤ 'z' then some (c.toNat - 71)
  else if '0' ≤ c ∧ c ≤ '9' then some (c.toNat + 4)
  else if c == '+' then some 62
  else if c == '/' then some 63
  else none

/-- `place` counts the sextets of the current group, `carry` holds the bits not yet given out. -/
def base64From (place carry pads : Nat) : List Char → Option (List UInt8)
  | [] => if place == 0 then some [] else none
  | c :: rest =>
    if c == '=' then
      if place ≥ 2 then
        if place + pads + 1 ≥ 4 then some [] else base64From place carry (pads + 1) rest
      else base64From place carry pads rest
    else
      match sextet? c with
      | none => base64From place carry pads rest
      | some n =>
        match place with
        | 0 => base64From 1 n 0 rest
        | 1 => (base64From 2 (n % 16) 0 rest).map ((carry * 4 + n / 16).toUInt8 :: ·)
        | 2 => (base64From 3 (n % 4) 0 rest).map ((carry * 16 + n / 4).toUInt8 :: ·)
        | _ => (base64From 0 0 0 rest).map ((carry * 64 + n).toUInt8 :: ·)

/-- The bytes that a text encodes; `none` if it stops inside a group. -/
def base64? (cs : List Char) : Option (List UInt8) :=
  base64From 0 0 0 cs

end StageGate.Text
