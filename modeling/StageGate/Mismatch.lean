/-! Failures of an operation on a value that it does not fit. -/

namespace StageGate

inductive Mismatch where
  | noSuchMember
  | wrongType
  | badValue
  | missingKey
  | emptyText
  | outOfRange
  | badEncoding
  | repeatedEntry
deriving DecidableEq, Repr

/-- The word for the failure in reports. -/
def Mismatch.title : Mismatch → String
  | .noSuchMember => "AttributeError"
  | .wrongType => "TypeError"
  | .badValue => "ValueError"
  | .missingKey => "KeyError"
  | .emptyText => "IndexError"
  | .outOfRange => "OverflowError"
  | .badEncoding => "UnicodeDecodeError"
  | .repeatedEntry => "AssertionError"

/-- The message of the failure; most are known by their word alone. -/
def Mismatch.message : Mismatch → String
  | .emptyText => "string index out of range"
  | .repeatedEntry => ""
  | m => "<" ++ m.title ++ ">"

end StageGate
