import StageGate.Report.Basic

/-! Reports as plain lines; markup stays as it is written. -/

namespace StageGate

def Table.lines (t : Table) : List String :=
  t.title :: (t.columns.map (·.header) :: t.rows).map fun cells => " | ".intercalate cells

def Panel.lines (p : Panel) : List String :=
  p.title.toList ++ [p.body]

def Printed.lines : Printed → List String
  | .table t => t.lines
  | .panel p => p.lines
  | .text s => [s]

end StageGate
