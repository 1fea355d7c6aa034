/-! Blanks: white space of every script, and text without the blanks around it. -/

namespace StageGate.Text

/-- Ranges of white-space code points, both ends included. -/
def blankRanges : List (Nat × Nat) := [
  (0x09, 0x0D), (0x1C, 0x20), (0x85, 0x85), (0xA0, 0xA0), (0x1680, 0x1680), (0x2000, 0x200A),
  (0x2028, 0x2029), (0x202F, 0x202F), (0x205F, 0x205F), (0x3000, 0x3000)]

def isBlank (c : Char) : Bool :=
  blankRanges.any fun (lo, hi) => lo ≤ c.toNat && c.toNat ≤ hi

/-- The text between the characters at its ends that are to be dropped. -/
def trimOf (drop : Char → Bool) (cs : List Char) : List Char :=
  ((cs.dropWhile drop).reverse.dropWhile drop).reverse

def trim (cs : List Char) : List Char :=
  trimOf isBlank cs

/-- The text without the blanks at its ends. -/
def strip (s : String) : String :=
  String.ofList (trim s.toList)

end StageGate.Text
