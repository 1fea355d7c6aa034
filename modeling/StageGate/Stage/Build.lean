import StageGate.Files.Discovery
import StageGate.Manifest.Decode
import StageGate.Stage.Basic
import StageGate.Stage.Readiness

/-!
Building stages from directories. Manifests are taken in the order of their relative paths, and the
first one that fails fails the stage.
-/

namespace StageGate

/-- A stage in the making: the resources and the skipped files so far. -/
structure Draft where
  resources : List Resource
  skipped : List String

namespace Draft

def empty : Draft := ⟨[], []⟩

def has (d : Draft) (k : Kind) : Bool :=
  d.resources.any fun r => r.kind == k

/-- Adds what a file declares. -/
def add (d : Draft) (decoded : Manifest.Decoded) (file : String) : Draft :=
  match decoded with
  | .recognized _ r => { d with resources := d.resources ++ [r] }
  | .unrecognized _ => { d with skipped := d.skipped ++ [file] }

/-- What adding a file leaves in the log. -/
def addEvents (stage : String) (d : Draft) (decoded : Manifest.Decoded) (file : String) : List Event :=
  match decoded with
  | .recognized _ r => if d.has r.kind then [.replaced stage r.kind file] else []
  | .unrecognized kind => [.skipped kind file]

def bundle (d : Draft) : Bundle :=
  d.resources.foldl Bundle.put .empty

def toStage (World : Type) (name path : String) (d : Draft) : Stage World where
  name
  path
  bundle := d.bundle
  controls := d.resources.map fun r => Readiness.control World r.kind
  entries := d.resources.map fun r => ⟨r.kind.name, r.name⟩
  skipped := d.skipped

end Draft

namespace Stage
open Files (RelativePath filePath)

/-- The manifests of a stage directory. -/
def manifests (files : Files.Tree) (directory : Files.Path) : Except Fault (List RelativePath) :=
  (Files.discover files directory).mapError fun
    | .noDirectory => .load .noDirectory (some directory.text)
    | .unlistable why =>
      .load (.unlistable why) (some (if why.path == "" then directory.text else why.path))
    | .unreached why => .access why

/-- Reads and decodes one manifest. -/
def decodeFile [Yaml.Reader] (files : Files.Tree) (path : String) : Except Fault Manifest.Decoded := do
  let bytes ← (files.read path).mapError fun why => .load (.unreadable why) (some path)
  Manifest.decode .standard (some path) bytes

/-- Adds files to a draft, up to the first that fails. -/
def addFiles (stage : String) (directory : Files.Path)
    (decode : String → Except Fault Manifest.Decoded) : Draft → List RelativePath → Loaded Draft
  | d, [] => ⟨.ok d, []⟩
  | d, file :: rest =>
    let path := filePath directory file
    match decode path with
    | .error f => ⟨.error f, []⟩
    | .ok decoded =>
      let later := addFiles stage directory decode (d.add decoded file.text) rest
      ⟨later.result,
        decoded.events (some path) ++ d.addEvents stage decoded file.text ++ later.events⟩

/-- The name of a stage: the given one, or that of its directory. -/
def nameFor (name : Option String) (directory : Files.Path) : String :=
  match name with
  | none | some "" => directory.name
  | some n => n

/-- The stage of a directory. -/
def build [Yaml.Reader] (World : Type) (files : Files.Tree) (directory : String) (name : Option String) :
    Loaded (Stage World) :=
  let root := Files.Path.ofText directory
  let stage := nameFor name root
  match manifests files root with
  | .error f => ⟨.error f, []⟩
  | .ok found =>
    let drafted := addFiles stage root (decodeFile files) .empty found
    match drafted.result with
    | .error f => ⟨.error f, drafted.events⟩
    | .ok d =>
      ⟨.ok (d.toStage World stage root.text),
        drafted.events ++ [.built stage root.text d.resources.length d.skipped.length]⟩

/-- The stages of named directories, in order, up to the first that fails. -/
def buildAll [Yaml.Reader] (World : Type) (files : Files.Tree) :
    List (String × String) → Loaded (List (Stage World))
  | [] => ⟨.ok [], []⟩
  | (name, directory) :: rest =>
    let first := build World files directory (some name)
    match first.result with
    | .error f => ⟨.error f, first.events⟩
    | .ok s =>
      let later := buildAll World files rest
      ⟨later.result.map (s :: ·), first.events ++ later.events⟩

end Stage
end StageGate
