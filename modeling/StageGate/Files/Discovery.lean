import StageGate.Files.Tree

/-!
Discovery of manifests: the regular files below a directory, in the order of their relative paths.
Links are left out, and so is everything behind them; but what a link leads to is looked up before it is
left out, so that a look-up which fails ends the search.
-/

namespace StageGate.Files

/-- The parts of the path of a file, from the directory that was searched. -/
abbrev RelativePath := List String

def RelativePath.text (p : RelativePath) : String :=
  "/".intercalate p

/-- Why a directory holds no manifests to use. -/
inductive DiscoveryFault where
  | noDirectory
  | unlistable (fault : AccessFault)
  /-- What a path stands for cannot be looked up. -/
  | unreached (fault : AccessFault)
deriving DecidableEq, Repr

/-- What a search asks of the places below its directory: that they can be listed, and looked up. -/
structure Probe where
  list : RelativePath → Except DiscoveryFault Unit
  test : RelativePath → Except DiscoveryFault Unit

namespace Entry

def fileNames : List (String × Entry) → List String
  | [] => []
  | (name, .file ..) :: rest => name :: fileNames rest
  | _ :: rest => fileNames rest

/-- Looks up the entries of the directory at `place`, but for the directories among them. -/
def testEntries (probe : Probe) (place : RelativePath) : List (String × Entry) → Except DiscoveryFault Unit
  | [] => .ok ()
  | (_, .directory ..) :: rest => testEntries probe place rest
  | (name, _) :: rest => do
    probe.test (place ++ [name])
    testEntries probe place rest

mutual

/-- The regular files below an entry that stands at `place`, or the first failure on the way. A directory
is listed and its entries are looked up before any directory in it is entered. -/
def filesBelow (probe : Probe) (place : RelativePath) : Entry → Except DiscoveryFault (List RelativePath)
  | .directory entries _ => do
    probe.list place
    testEntries probe place entries
    let deeper ← filesInDirectories probe place entries
    return (fileNames entries).map (fun n => place ++ [n]) ++ deeper
  | .file .. | .link _ | .special => .ok []

/-- The regular files in the directories among some entries. -/
def filesInDirectories (probe : Probe) (place : RelativePath) :
    List (String × Entry) → Except DiscoveryFault (List RelativePath)
  | [] => .ok []
  | (name, e) :: rest => do
    let first ← filesBelow probe (place ++ [name]) e
    return first ++ (← filesInDirectories probe place rest)

end
end Entry

/-- The order of relative paths: by the code points of their texts. -/
def RelativePath.le (p q : RelativePath) : Bool :=
  p.text ≤ q.text

def sortPaths (ps : List RelativePath) : List RelativePath :=
  ps.mergeSort RelativePath.le

/-- The path of a file of a directory. -/
def filePath (directory : Path) (file : RelativePath) : String :=
  (directory.join ⟨.relative, file⟩).text

/-- The name under which a directory is listed; it keeps the dot of the working directory. -/
def listingPath (directory : Path) (place : RelativePath) : String :=
  if place.isEmpty then directory.text
  else
    let base := directory.text
    (if base == "/" || base == "//" then base else base ++ "/") ++ place.text

/-- The probe of a tree, below a directory. -/
def Tree.probe (tree : Tree) (directory : Path) : Probe where
  list place := ((tree.list (listingPath directory place)).map fun _ => ()).mapError .unlistable
  test place := ((tree.test (filePath directory place)).map fun _ => ()).mapError .unreached

/-- The manifests of a directory. -/
def discover (tree : Tree) (directory : Path) : Except DiscoveryFault (List RelativePath) :=
  match tree.test directory.text with
  | .error why => .error (.unreached why)
  | .ok (some (.directory entries access)) =>
    ((Entry.directory entries access).filesBelow (tree.probe directory) []).map sortPaths
  | .ok _ => .error .noDirectory

end StageGate.Files
