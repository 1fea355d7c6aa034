import StageGate.Stage.Build

/-! Catalogs of stages: loaded on first use, all stages or none, and kept from then on. -/

namespace StageGate

/-- Where the stages come from in a world. -/
abbrev StageSource (World : Type) := World → Loaded (List (Stage World))

/-- The stages of named directories of a file tree. -/
def StageSource.ofDirectories [Yaml.Reader] {World : Type} (files : World → Files.Tree)
    (directories : List (String × String)) : StageSource World := fun w =>
  let loaded := Stage.buildAll World (files w) directories
  match loaded.result with
  | .error f => ⟨.error f, loaded.events⟩
  | .ok stages => ⟨.ok stages, loaded.events ++ [.catalogReady (stages.map (·.name))]⟩

/-- Stages that are given as they are. -/
def StageSource.fixed {World : Type} (stages : List (Stage World)) : StageSource World :=
  fun _ => ⟨.ok stages, []⟩

/-- The stages kept, none before they are loaded. -/
structure Catalog (World : Type) where
  kept : Option (List (Stage World))

namespace Catalog
variable {World : Type}

def empty : Catalog World := ⟨none⟩

def isLoaded (c : Catalog World) : Bool :=
  c.kept.isSome

/-- The stages, loaded now if they are not kept yet; a load that fails keeps nothing. -/
def stages (c : Catalog World) (source : StageSource World) (w : World) :
    Catalog World × Loaded (List (Stage World)) :=
  match c.kept with
  | some stages => (c, ⟨.ok stages, []⟩)
  | none =>
    let loaded := source w
    match loaded.result with
    | .ok stages => (⟨some stages⟩, loaded)
    | .error _ => (c, loaded)

end Catalog
end StageGate
