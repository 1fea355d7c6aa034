import StageGate.Stage.Control

/-! Stages: a bundle of resources and the controls that have to find them ready. -/

namespace StageGate

/-- What a control is reported as. -/
structure StageEntry where
  kind : String
  name : Value

def StageEntry.text (e : StageEntry) : String :=
  e.kind ++ "/" ++ e.name.display

structure Stage (World : Type) where
  name : String
  path : String
  bundle : Bundle
  controls : List (Control World)
  /-- The entries of the controls, in the same order. -/
  entries : List StageEntry
  skipped : List String

namespace Stage

def size {World : Type} (s : Stage World) : Nat :=
  s.controls.length

/-- The entry of a control; one that is not listed goes by its title. -/
def entry {World : Type} (s : Stage World) (i : Nat) (c : Control World) : StageEntry :=
  (s.entries[i]?).getD ⟨c.title.getD "control", .null⟩

end Stage
end StageGate
