import StageGate.Fault

/-! Cancel tokens: signals that fire when they are cancelled or when a deadline passes. -/

namespace StageGate

/-- A moment on a clock that never stops. -/
inductive Deadline where
  | past
  | at (moment : Rat)
  | never
deriving DecidableEq

namespace Deadline

def reached (d : Deadline) (now : Rat) : Bool :=
  match d with
  | .past => true
  | .at moment => moment ≤ now
  | .never => false

def later (d : Deadline) (seconds : Rat) : Deadline :=
  match d with
  | .at moment => .at (seconds + moment)
  | d => d

/-- The moment that a number states; what is no number is never reached. -/
def ofFloat (x : Float) : Deadline :=
  match Decimal.Parts.ofFloat x with
  | .finite b => .at b.toRat
  | .infinite negative => if negative then .past else .never
  | .undefined => .never

def ofValue? : Value → Option Deadline
  | .bool b => some (.at (if b then 1 else 0))
  | .int n => some (.at n)
  | .float x => some (ofFloat x)
  | _ => none

end Deadline

structure Token where
  cancelled : Bool
  deadline : Option Deadline
deriving DecidableEq

namespace Token

/-- A token that fires only when it is cancelled. -/
def quiet : Token := ⟨false, none⟩

def cancel (t : Token) : Token :=
  { t with cancelled := true }

def expire (t : Token) : Token :=
  { t with deadline := some .past }

def fired (t : Token) (now : Rat) : Bool :=
  t.cancelled || t.deadline.any (·.reached now)

/-- The fault of going on to `place` after the token has fired. -/
def check (t : Token) (now : Rat) (place : String) : Option Fault :=
  if t.fired now then some (.cancelled (.before place)) else none

/-- The least integer that is too large to be added to a clock. -/
def timeoutLimit : Nat := Nat.pow 2 1024 - Nat.pow 2 970

/-- A token that fires some seconds from now, or none at all where no timeout is given. -/
def ofTimeout (now : Rat) (seconds : Value) : Except Mismatch Token :=
  match seconds with
  | .null => .ok quiet
  | .int n =>
    if n.natAbs ≥ timeoutLimit then .error .outOfRange else .ok ⟨false, some (.at (now + n))⟩
  | v =>
    match Deadline.ofValue? v with
    | some d => .ok ⟨false, some (d.later now)⟩
    | none => .error .wrongType

end Token
end StageGate
