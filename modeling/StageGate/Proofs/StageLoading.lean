import StageGate.Proofs.BuiltStages
import StageGate.Proofs.DecodedMetadata
import StageGate.Proofs.ReconcileExits

/-!
Loading the stages of named directories: all of them, or the fault of the first that cannot be built. A
catalog keeps nothing until a load succeeds, and the stages of that load from then on.
-/

namespace StageGate
open Files (filePath)

namespace Stage
variable {World : Type} {files : Files.Tree} {directories : List (String × String)}

section
variable [Yaml.Reader]

/-- The stage of a named directory, or the fault of building it. -/
def built (World : Type) (files : Files.Tree) (directory : String × String) :
    Except Fault (Stage World) :=
  (build World files directory.2 (some directory.1)).result

theorem buildAll_result :
    (buildAll World files directories).result = directories.mapM (built World files) := by
  induction directories with
  | nil => rfl
  | cons d rest ih =>
    rw [mapM_cons_eq, ← ih]
    obtain ⟨name, directory⟩ := d
    conv_lhs => unfold buildAll
    unfold built
    generalize build World files directory (some name) = first
    rcases first with ⟨f | s, events⟩
    · rfl
    · rfl

/-- The stages are those of the directories, one for each and in their order. -/
def AllBuilt (files : Files.Tree) (directories : List (String × String))
    (ss : List (Stage World)) : Prop :=
  List.Forall₂ (fun d s => built World files d = .ok s) directories ss

theorem AllBuilt.exists_directory {ss : List (Stage World)} {s : Stage World}
    (hss : AllBuilt files directories ss) (hs : s ∈ ss) :
    ∃ d ∈ directories, built World files d = .ok s := by
  obtain ⟨i, hi, rfl⟩ := List.getElem_of_mem hs
  have hi' : i < directories.length := hss.length_eq ▸ hi
  exact ⟨directories[i], List.getElem_mem hi', hss.get hi' hi⟩

/-- The controls of built stages are those of kinds. -/
theorem AllBuilt.controls {ss : List (Stage World)} {s : Stage World}
    (hss : AllBuilt files directories ss) (hs : s ∈ ss) :
    ∀ c ∈ s.controls, ∃ k, c = Readiness.control World k := by
  obtain ⟨d, -, hbuilt⟩ := hss.exists_directory hs
  exact build_controls hbuilt

/-- What the bundles of built stages hold has textual metadata. -/
theorem AllBuilt.textual {ss : List (Stage World)} {s : Stage World} (hss : AllBuilt files directories ss)
    (hs : s ∈ ss) {k : Kind} {r : Resource} (hr : s.bundle.get k = some r) : r.metadata.Textual := by
  obtain ⟨d, -, hbuilt⟩ := hss.exists_directory hs
  obtain ⟨-, path, slot, hdecoded⟩ := build_slot hbuilt hr
  obtain ⟨bytes, -, hdecoded⟩ := bind_eq_ok.mp hdecoded
  exact Manifest.decode_textual hdecoded

theorem AllBuilt.checks {ss : List (Stage World)} (hss : AllBuilt files directories ss) (n : Nat) :
    ∀ c ∈ checksFrom n ss, ∃ k, c.control = Readiness.control World k := by
  intro c hc
  obtain ⟨hstage, hcontrol⟩ := mem_checksFrom hc
  exact hss.controls hstage c.control hcontrol

end

theorem addFiles_eq_error {stage : String} {directory : Files.Path}
    {decode : String → Except Fault Manifest.Decoded} {found : List Files.RelativePath} {d : Draft}
    {f : Fault} :
    (addFiles stage directory decode d found).result = .error f ↔
      FirstError (fun file => decode (filePath directory file)) found f := by
  induction found generalizing d with
  | nil => simp [addFiles, not_firstError_nil]
  | cons file rest ih =>
    rw [firstError_cons]
    simp only [addFiles]
    cases hd : decode (filePath directory file) with
    | error g => simp
    | ok decoded => simpa using ih

/-- A build fails where the directory cannot be searched, or else at the first file that fails. -/
theorem build_eq_error [Yaml.Reader] {directory : String} {name : Option String} {f : Fault} :
    (build World files directory name).result = .error f ↔
      manifests files (.ofText directory) = .error f ∨
        ∃ found, manifests files (.ofText directory) = .ok found ∧
          FirstError (fun file => decodeFile files (filePath (.ofText directory) file)) found f := by
  unfold build
  cases hm : manifests files (.ofText directory) with
  | error g => simp [hm]
  | ok found =>
    have hadded : (addFiles (nameFor name (.ofText directory)) (.ofText directory) (decodeFile files)
        .empty found).result = .error f ↔ _ := addFiles_eq_error
    cases hd : (addFiles (nameFor name (.ofText directory)) (.ofText directory) (decodeFile files)
        .empty found).result with
    | error g => simp [hm, hd, ← hadded]
    | ok d => simp [hm, hd, ← hadded]

end Stage

namespace StageSource
variable {World : Type} {files : World → Files.Tree} {directories : List (String × String)} {w : World}

variable [Yaml.Reader]

theorem ofDirectories_result :
    (ofDirectories files directories w).result =
      directories.mapM (Stage.built World (files w)) := by
  rw [← Stage.buildAll_result]
  unfold ofDirectories
  generalize Stage.buildAll World (files w) directories = loaded
  rcases loaded with ⟨f | ss, events⟩
  · rfl
  · rfl

theorem ofDirectories_eq_ok {ss : List (Stage World)} :
    (ofDirectories files directories w).result = .ok ss ↔
      Stage.AllBuilt (files w) directories ss := by
  rw [ofDirectories_result, mapM_eq_ok, Stage.AllBuilt]

theorem ofDirectories_eq_error {f : Fault} :
    (ofDirectories files directories w).result = .error f ↔
      FirstError (Stage.built World (files w)) directories f := by
  rw [ofDirectories_result, mapM_eq_error]

/-- What cannot all be built has a first that fails. -/
theorem exists_firstError (hw : ¬ ∃ ss : List (Stage World), Stage.AllBuilt (files w) directories ss) :
    ∃ f, FirstError (Stage.built World (files w)) directories f := by
  cases hl : (ofDirectories files directories w).result with
  | error f => exact ⟨f, ofDirectories_eq_error.mp hl⟩
  | ok ss => exact absurd ⟨ss, ofDirectories_eq_ok.mp hl⟩ hw

end StageSource

namespace Catalog
variable {World : Type} {source : StageSource World} {c : Catalog World}

/-- Of a world only the files play a part. -/
theorem stages_ofDirectories_congr [Yaml.Reader] {files : World → Files.Tree}
    {directories : List (String × String)}
    {w w' : World} (hw : files w = files w') :
    c.stages (.ofDirectories files directories) w = c.stages (.ofDirectories files directories) w' := by
  simp only [stages, StageSource.ofDirectories, hw]

/-- The catalog after calls for its stages, each in the world it is made in. -/
def called (source : StageSource World) (c : Catalog World) (worlds : List World) : Catalog World :=
  worlds.foldl (fun c w => (c.stages source w).1) c

theorem called_of_kept {ss : List (Stage World)} (hk : c.kept = some ss) (worlds : List World) :
    c.called source worlds = c := by
  unfold called
  induction worlds with
  | nil => rfl
  | cons w worlds ih =>
    rw [List.foldl_cons, stages_of_kept hk]
    exact ih

theorem called_of_failed {worlds : List World}
    (hfail : ∀ w ∈ worlds, ∃ f, (source w).result = .error f) :
    Catalog.empty.called source worlds = .empty := by
  unfold called
  induction worlds with
  | nil => rfl
  | cons w worlds ih =>
    obtain ⟨⟨f, hf⟩, hrest⟩ := List.forall_mem_cons.mp hfail
    have hk : (Catalog.empty : Catalog World).kept = none := rfl
    have hl := (stages_of_not_kept hk).trans hf
    rw [List.foldl_cons, stages_of_error hl]
    exact ih hrest

/-- After calls that could not build all directories, the next call fails with the fault of the first
that cannot be built and keeps nothing, or it gives a stage for each and every later call does too. -/
theorem stages_called [Yaml.Reader] {files : World → Files.Tree} {directories : List (String × String)}
    {earlier : List World}
    (hearlier : ∀ v ∈ earlier, ¬ ∃ ss : List (Stage World), Stage.AllBuilt (files v) directories ss)
    (w : World) :
    let source : StageSource World := .ofDirectories files directories
    let called := (Catalog.empty.called source earlier).stages source w
    ((¬ ∃ ss : List (Stage World), Stage.AllBuilt (files w) directories ss) →
      ∃ f, FirstError (Stage.built World (files w)) directories f ∧
        called.2.result = .error f ∧ called.1 = .empty) ∧
    ∀ ss, Stage.AllBuilt (files w) directories ss →
      called.2.result = .ok ss ∧ called.1 = ⟨some ss⟩ ∧
        ∀ later v, (called.1.called source later).stages source v = (⟨some ss⟩, ⟨.ok ss, []⟩) := by
  intro source called
  have hfail : ∀ v ∈ earlier, ∃ f, (source v).result = .error f := by
    intro v hv
    obtain ⟨f, hf⟩ := StageSource.exists_firstError (hearlier v hv)
    exact ⟨f, StageSource.ofDirectories_eq_error.mpr hf⟩
  have hempty : Catalog.empty.called source earlier = .empty := called_of_failed hfail
  have hresult : called.2.result = (source w).result := stages_of_not_kept (by rw [hempty]; rfl)
  constructor
  · intro hw
    obtain ⟨f, hf⟩ := StageSource.exists_firstError hw
    have hl := hresult.trans (StageSource.ofDirectories_eq_error.mpr hf)
    exact ⟨f, hf, hl, (stages_of_error hl).trans hempty⟩
  · intro ss hss
    have hl := hresult.trans (StageSource.ofDirectories_eq_ok.mpr hss)
    have hk : called.1.kept = some ss := kept_of_ok hl
    refine ⟨hl, congrArg Catalog.mk hk, fun later v => ?_⟩
    rw [called_of_kept hk, stages_of_kept hk]
    exact Prod.ext (congrArg Catalog.mk hk) rfl

end Catalog
end StageGate
