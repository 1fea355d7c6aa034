import StageGate.CommandLine.Run
import StageGate.Proofs.ConfigFiles
import StageGate.Proofs.StageDirectories

/-!
The configuration of a command, in three layers: what its options give, or else what the file sets, or else
the default. Stages that the options give are taken as they are, so that the stages of the command are named
and different just if those are.
-/

namespace StageGate

namespace Config

theorem Stated.states {v : Value} {c : Config} (hc : Stated v c) : States (v.entries?.getD []) c := by
  cases hc with
  | null hnull => simpa [hnull, Value.entries?] using states_nil.2
  | settings hes _ hstates => simpa [hes] using hstates
  | hollow hhollow => simpa [hhollow.notMapping] using states_nil.2

theorem Stated.named {v : Value} {c : Config} (hc : Stated v c) : NamesStages c.stages := by
  have hstandard : ofValue (.map false []) = .ok standard := rfl
  cases hc with
  | null | hollow => exact stages_named hstandard
  | settings hes hvalid hstates => exact stages_named (ofValue_eq_ok.mpr ⟨_, hes, hvalid, hstates⟩)

end Config

namespace CommandLine
open Config (NamesStages HasDocument States)

/-- What an option gives: nothing where it is left out or empty. -/
def given? (value : Option String) : Option String :=
  value.filter (· != "")

/-- The stages that the options give. -/
def Options.stages? (o : Options) : Option (List String) :=
  if o.stages = [] then none else some o.stages

/-- What takes effect of the value that an option gives, the value that the file sets, and the default. -/
inductive TakesEffect {α : Type} (view : α → Value) (default : α) : Option α → Option Value → α → Prop where
  | option (a : α) (set : Option Value) : TakesEffect view default (some a) set a
  | file (a : α) : TakesEffect view default none (some (view a)) a
  | default : TakesEffect view default none none default

/-- Each setting is what takes effect of the options, the file and its default. -/
structure Layered (o : Options) (es : Mapping) (c : Config) : Prop where
  assetsDir : TakesEffect .str "/opt/nfd" (given? o.assetsDir) (es.get? "assetsDir") c.assetsDir
  stages : TakesEffect (fun names => .list (names.map .str)) ["master", "worker"] o.stages?
    (es.get? "stages") c.stages
  instanceKind : TakesEffect .str "NodeFeatureDiscovery" (given? o.instanceKind) (es.get? "instanceKind")
    c.instanceKind
  timeout : TakesEffect id .null (o.timeout.map .float) (es.get? "timeoutSeconds") c.timeout

/-- The entries that the configuration file sets, if one is named; it has to load. -/
inductive FileSets [Yaml.Reader] (files : Files.Tree) (o : Options) : Mapping → Prop where
  | unnamed (hpath : given? o.config = none) : FileSets files o []
  | loaded {path v c} (hpath : given? o.config = some path) (hload : Config.ofFile files path = .ok c)
      (hv : HasDocument files path v) : FileSets files o (v.entries?.getD [])

variable {files : Files.Tree} {o : Options} {es : Mapping} {c : Config}

theorem override_eq (value : Option String) (default : String) :
    override value default = (given? value).getD default := by
  unfold override given?
  split
  · rfl
  · rfl
  · rename_i s hs
    have hs : s ≠ "" := by simpa using hs
    simp [Option.filter, hs]

theorem TakesEffect.of_sets {α : Type} {view : α → Value} {default a : α} {set : Option Value}
    (option : Option α) (ha : Config.Sets view default set a) :
    TakesEffect view default option set (option.getD a) := by
  cases option with
  | some b => exact .option b set
  | none =>
    cases ha with
    | given => exact .file _
    | absent => exact .default

/-- The options over a configuration. -/
def overlay (o : Options) (base : Config) : Config where
  assetsDir := override o.assetsDir base.assetsDir
  stages := if o.stages.isEmpty then base.stages else o.stages
  instanceKind := override o.instanceKind base.instanceKind
  timeout := match o.timeout with | some x => .float x | none => base.timeout

theorem overlay_stages (o : Options) (base : Config) :
    (overlay o base).stages = o.stages?.getD base.stages := by
  unfold overlay Options.stages?
  simp only [List.isEmpty_iff]
  split <;> rfl

section
variable [Yaml.Reader]

/-- The configuration that the options are laid over. -/
def baseFor (files : Files.Tree) (o : Options) : Except Fault Config :=
  match given? o.config with
  | none => .ok Config.standard
  | some path => Config.ofFile files path

theorem configFor_eq (files : Files.Tree) (o : Options) :
    configFor files o = (baseFor files o).map (overlay o) := by
  have hpath (path : String) (hgiven : given? o.config = some path) : path ≠ "" := by
    simpa using (Option.filter_eq_some_iff.mp hgiven).2
  unfold configFor baseFor
  rw [override_eq o.config]
  cases hgiven : given? o.config with
  | none => rfl
  | some path =>
    simp only [Option.getD_some, beq_iff_eq, hpath path hgiven, ↓reduceIte]
    cases Config.ofFile files path <;> rfl

/-- What the file sets is a configuration with named stages, over which the options are laid. -/
theorem FileSets.exists_base (hfile : FileSets files o es) :
    ∃ base, States es base ∧ NamesStages base.stages ∧ configFor files o = .ok (overlay o base) := by
  simp only [configFor_eq, map_eq_ok]
  cases hfile with
  | unnamed hpath =>
    have hnamed := (Config.Stated.null (v := .null) rfl).named
    exact ⟨Config.standard, Config.states_nil.2, hnamed, _, by rw [baseFor, hpath], rfl⟩
  | @loaded path v c hpath hload hv =>
    obtain ⟨v', c', hv', hstated, hc'⟩ | ⟨f, -, hf⟩ := Config.ofFile_cases files path
    · obtain rfl := hv.unique hv'
      exact ⟨c', hstated.states, hstated.named, c', by simpa [baseFor, hpath] using hc', rfl⟩
    · cases hload.symm.trans hf

/-- A command whose configuration file loads has a configuration. Each setting is what takes effect of the
options, the file and its default, and the stages are named and different unless the options give stages that
are not. -/
theorem configFor_layered (hfile : FileSets files o es) :
    ∃ c, configFor files o = .ok c ∧ Layered o es c ∧
      (NamesStages c.stages ↔ o.stages = [] ∨ NamesStages o.stages) := by
  obtain ⟨base, hstates, hnamed, hc⟩ := hfile.exists_base
  have hassets : (overlay o base).assetsDir = (given? o.assetsDir).getD base.assetsDir := override_eq _ _
  have hkind : (overlay o base).instanceKind = (given? o.instanceKind).getD base.instanceKind :=
    override_eq _ _
  have htimeout : (overlay o base).timeout = (o.timeout.map .float).getD base.timeout := by
    unfold overlay
    cases o.timeout <;> rfl
  refine ⟨_, hc, ⟨?_, ?_, ?_, ?_⟩, ?_⟩
  · rw [hassets]
    exact .of_sets _ hstates.assetsDir
  · rw [overlay_stages]
    exact .of_sets _ hstates.stages
  · rw [hkind]
    exact .of_sets _ hstates.instanceKind
  · rw [htimeout]
    exact .of_sets _ hstates.timeout
  · rw [overlay_stages]
    by_cases hstages : o.stages = []
    · simpa [Options.stages?, hstages] using hnamed
    · simp [Options.stages?, hstages]

end

/-! A file that sets the assets and the stages, under options for the stages and the kind. -/

def gateText : String := "assetsDir: gates\nstages: [gate]\n"

def gateEntries : Mapping :=
  [(.str "assetsDir", .str "gates"), (.str "stages", .list [.str "gate"])]

def gateOptions : Options :=
  { Options.start with config := some "k.yaml", stages := ["nodes"], instanceKind := some "Gate" }

theorem gate_fileSets : FileSets (Config.settingsFile gateText.toUTF8.toList) gateOptions gateEntries := by
  have htext : Manifest.textOf? gateText.toUTF8.toList = some gateText := by decide +kernel
  have hdocs : Yaml.Reader.documents gateText = .ok [.map false gateEntries] :=
    Yaml.documents_of_alike (by decide +kernel)
  have hloads : (Config.ofFile (Config.settingsFile gateText.toUTF8.toList) "k.yaml").toOption.isSome =
      true := by decide +kernel
  obtain ⟨c, hc⟩ := Option.isSome_iff_exists.mp hloads
  exact .loaded rfl (toOption_eq_some.mp hc) ⟨_, ⟨_, rfl, htext⟩, .inl hdocs⟩

theorem gate_layered :
    FileSets (Config.settingsFile gateText.toUTF8.toList) gateOptions gateEntries ∧
      ∃ c, configFor (Config.settingsFile gateText.toUTF8.toList) gateOptions = .ok c ∧
        Layered gateOptions gateEntries c ∧ (NamesStages c.stages ↔ ["nodes"] = [] ∨ NamesStages ["nodes"]) :=
  ⟨gate_fileSets, configFor_layered gate_fileSets⟩

/-- A stage that the options give twice is taken twice. -/
theorem repeated_option_kept :
    ¬ ∀ arguments o files es c, Options.read arguments = .ok o → FileSets files o es →
      configFor files o = .ok c → NamesStages c.stages := by
  intro hnamed
  have hread : Options.read ["plan", "--stage", "d", "--stage", "d"] =
      .ok { Options.start with command := some .plan, stages := ["d", "d"] } := rfl
  have hstages := hnamed _ _ (Config.settingsFile []) [] _ hread (.unnamed rfl) rfl
  exact absurd hstages.distinct (by decide)

end CommandLine
end StageGate
