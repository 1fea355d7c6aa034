import StageGate.Stage.Basic

/-!
The stepper: it walks the stages in order, and a stage is passed once all its controls answer that
they are ready. A stepper that is blocked tries the same stage again.
-/

namespace StageGate

inductive Phase where
  | idle
  | stepping
  | converged
  | blocked
deriving DecidableEq, Repr

def Phase.text : Phase → String
  | .idle => "Idle"
  | .stepping => "Stepping"
  | .converged => "Converged"
  | .blocked => "Blocked"

structure Stepper (World : Type) where
  owner : Option String
  stages : List (Stage World)
  subject : Option Value
  /-- The number of stages passed. -/
  cursor : Nat
  phase : Phase
  lastFault : Option Fault

namespace Stepper
variable {World : Type}

def new (owner : Option String) : Stepper World :=
  ⟨owner, [], none, 0, .idle, none⟩

/-- The phase after a number of passed stages. -/
def phaseAt (s : Stepper World) (cursor : Nat) : Phase :=
  if cursor == s.stages.length then .converged else .stepping

/-- Starts over for an instance; stages are taken on only once. -/
def restart (s : Stepper World) (subject : Value) (stages : List (Stage World)) : Stepper World :=
  let s := { s with
    stages := if s.stages.isEmpty then stages else s.stages
    subject := some subject
    cursor := 0
    lastFault := none }
  { s with phase := s.phaseAt 0 }

def current? (s : Stepper World) : Option (Stage World) :=
  s.stages[s.cursor]?

def isConverged (s : Stepper World) : Bool :=
  s.phase != .idle && s.cursor == s.stages.length

def block (s : Stepper World) (f : Fault) : Stepper World :=
  { s with phase := .blocked, lastFault := some f }

/-- Passes the current stage. -/
def advance (s : Stepper World) : Stepper World :=
  { s with cursor := s.cursor + 1, phase := s.phaseAt (s.cursor + 1) }

def advanceEvent (s : Stepper World) (stage : Stage World) : Event :=
  .stageReady s.owner stage.name (s.cursor + 1) s.stages.length

/-- Runs controls, numbered from `i`, up to the first that is not ready or fails. -/
def runControls (h : Host World) (subject : Value) (position : Nat) (stage : Stage World) :
    Nat → List (Control World) → Token → World → Ran World (Option Fault)
  | _, [], t, w => ⟨none, t, w, []⟩
  | i, c :: cs, t, w =>
    let entry := stage.entry i c
    match t.check (h.now w) entry.text with
    | some f => ⟨some f, t, w, []⟩
    | none =>
      let ran := c.run h subject stage.bundle t w
      let effects := .began position i :: ran.effects
      match ran.result with
      | .error f => ⟨some f, ran.token, ran.world, effects⟩
      | .ok .ready =>
        let rest := runControls h subject position stage (i + 1) cs ran.token ran.world
        { rest with effects := effects ++ rest.effects }
      | .ok _ => ⟨some (.notReady stage.name entry.kind entry.name), ran.token, ran.world, effects⟩

/-- The stepper after a step, and the fault that stopped it. -/
abbrev Stepped (World : Type) := Ran World (Stepper World × Option Fault)

/-- Tries to pass the current stage. -/
def step (s : Stepper World) (h : Host World) (subject : Value) (t : Token) (w : World) :
    Stepped World :=
  if s.phase == .idle then ⟨(s, some (.misuse .idle)), t, w, []⟩
  else
    match s.current? with
    | none => ⟨(s, some (.misuse .converged)), t, w, []⟩
    | some stage =>
      let ran := runControls h subject s.cursor stage 0 stage.controls t w
      match ran.result with
      | some f => ⟨(s.block f, some f), ran.token, ran.world, ran.effects⟩
      | none =>
        ⟨(s.advance, none), ran.token, ran.world, ran.effects ++ [.logged (s.advanceEvent stage)]⟩

/-- Steps until converged or stopped, a bounded number of times. -/
def runFor (h : Host World) (subject : Value) : Nat → Stepper World → Token → World → Stepped World
  | 0, s, t, w => ⟨(s, none), t, w, []⟩
  | n + 1, s, t, w =>
    if s.isConverged then ⟨(s, none), t, w, []⟩
    else
      let ran := s.step h subject t w
      match ran.result with
      | (s, some f) => ⟨(s, some f), ran.token, ran.world, ran.effects⟩
      | (s, none) =>
        let rest := runFor h subject n s ran.token ran.world
        { rest with effects := ran.effects ++ rest.effects }

/-- Steps until converged or stopped; each step that is not stopped passes a stage. -/
def run (s : Stepper World) (h : Host World) (subject : Value) (t : Token) (w : World) :
    Stepped World :=
  runFor h subject (s.stages.length - s.cursor + 1) s t w

end Stepper
end StageGate
