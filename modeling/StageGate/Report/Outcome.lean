import StageGate.Reconcile.Basic
import StageGate.Report.Basic

/-! The outcome of a reconcile: how far the stages were passed, and what stopped them. -/

namespace StageGate
namespace Outcome

/-- How a stage stands: passed, waiting, failed, or not reached. -/
inductive Mark where
  | passed
  | waiting
  | failed
  | open
deriving DecidableEq, Repr

def Mark.text : Mark → String
  | .passed => "✅"
  | .waiting => "⏳"
  | .failed => "❌"
  | .open => "·"

/-- The mark of the stage at a position, the cursor being the number of stages passed. -/
def mark (o : Outcome) (cursor position : Nat) : Mark :=
  if position < cursor then .passed
  else if position == cursor && o.fault.isSome then
    if o.requeue then .waiting else .failed
  else .open

def columns : List Column := [
  ⟨"Stage", "cyan", .left⟩, ⟨"Controls", "", .right⟩, ⟨"Result", "", .center⟩]

def row {World : Type} (o : Outcome) (cursor : Nat) (s : Stage World) (position : Nat) :
    List String :=
  [s.name, toString s.size, (o.mark cursor position).text]

def table {World : Type} (o : Outcome) (i : Identity) (s : Stepper World) : Table :=
  let rows := s.stages.zipIdx.map fun (stage, position) => row o s.cursor stage position
  ⟨"Stages for " ++ i.text, "bold magenta", false, columns, rows⟩

/-- The heading of an outcome. -/
def heading (o : Outcome) : String :=
  match o.fault, o.requeue with
  | none, false => Markup.styled "bold green" "Converged"
  | none, true => Markup.styled "bold yellow" "Requeue requested"
  | some _, true => Markup.styled "bold yellow" "Requeue"
  | some _, false => Markup.styled "bold red" "Failed"

def body (o : Outcome) : String :=
  match o.fault with
  | none => o.heading
  | some f => o.heading ++ "\n" ++ Markup.styled "white" (f.title ++ ": " ++ f.message)

def border (o : Outcome) : String :=
  match o.fault, o.requeue with
  | none, false => "green"
  | _, true => "yellow"
  | some _, false => "red"

def panel (o : Outcome) (i : Identity) : Panel :=
  ⟨o.body, some (Markup.styled "bold white" i.text), o.border, false⟩

/-- The report of an outcome; the table is left out where there are no stages to show. -/
def report {World : Type} (o : Outcome) (i : Identity) (s : Option (Stepper World)) : List Printed :=
  let shown := match s with
    | some s => if s.stages.isEmpty then [] else [.table (o.table i s)]
    | none => []
  shown ++ [.panel (o.panel i)]

end Outcome
end StageGate
