import StageGate.Report.Basic
import StageGate.Stage.Basic

/-! The plan: one row for each manifest of each stage, in the order in which they are applied. -/

namespace StageGate
namespace Plan

/-- The text of a cell, a hyphen where there is nothing to show. -/
def cell (v : Value) : String :=
  if v.isPresent then v.display else "-"

/-- The namespace of the resource that the stage holds of a kind. -/
def namespaceOf {World : Type} (s : Stage World) (kind : String) : Value :=
  match (Kind.ofName? kind).bind s.bundle.get with
  | some r => r.metadata.namespaceName
  | none => .null

def entryRow {World : Type} (s : Stage World) (e : StageEntry) (number : Nat) : List String :=
  [s.name, toString number, e.kind, cell e.name, cell (namespaceOf s e.kind)]

def skippedRow {World : Type} (s : Stage World) (file : String) : List String :=
  [s.name, "-", Markup.styled "yellow" "skipped", file, "-"]

/-- The rows of a stage: its entries, numbered from one, and then the files it skips. -/
def rows {World : Type} (s : Stage World) : List (List String) :=
  (s.entries.zipIdx 1).map (fun (e, number) => entryRow s e number) ++ s.skipped.map (skippedRow s)

def columns : List Column := [
  ⟨"Stage", "cyan", .left⟩, ⟨"#", "", .right⟩, ⟨"Kind", "white", .left⟩, ⟨"Name", "", .left⟩,
  ⟨"Namespace", "dim", .left⟩]

def table {World : Type} (stages : List (Stage World)) : Table :=
  ⟨"KubeStage Apply Plan", "bold magenta", true, columns, stages.flatMap rows⟩

/-- The line below the plan. -/
def summary {World : Type} (stages : List (Stage World)) : String :=
  let controls := (stages.map Stage.size).foldl (· + ·) 0
  Markup.styled "dim"
    (toString stages.length ++ " stages, " ++ toString controls ++ " readiness controls")

end Plan
end StageGate
