import StageGate.Identity
import StageGate.Stage.Stepper

/-! The registry of steppers: one for each identity, in the order in which they were made. -/

namespace StageGate

structure Registry (World : Type) where
  steppers : List (Identity × Stepper World)

namespace Registry
variable {World : Type}

def empty : Registry World := ⟨[]⟩

def tracked (r : Registry World) : List Identity :=
  r.steppers.map Prod.fst

def find? (r : Registry World) (i : Identity) : Option (Stepper World) :=
  r.steppers.lookup i

/-- The stepper of an identity, a new one if it has none. -/
def get (r : Registry World) (i : Identity) : Stepper World :=
  (r.find? i).getD (.new (some i.text))

def setIn (i : Identity) (s : Stepper World) :
    List (Identity × Stepper World) → List (Identity × Stepper World)
  | [] => [(i, s)]
  | (j, t) :: rest => if j == i then (j, s) :: rest else (j, t) :: setIn i s rest

/-- Keeps the stepper of an identity, in the place of its old one. -/
def set (r : Registry World) (i : Identity) (s : Stepper World) : Registry World :=
  ⟨setIn i s r.steppers⟩

def forget (r : Registry World) (i : Identity) : Registry World :=
  ⟨r.steppers.filter fun e => e.1 != i⟩

end Registry
end StageGate
