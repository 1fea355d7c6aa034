import StageGate.Proofs.DecodeFaults
import StageGate.Proofs.ExactDiscovery
import StageGate.Proofs.StageLoading

/-!
How the build of a stage fails. The directory is searched first, and a failed search is the fault of the
build; then the files are loaded in the order of their paths, and the first that fails is. Whatever comes
after that file plays no part.
-/

namespace StageGate

namespace Files

end Files

namespace Stage
open Files (RelativePath filePath listingPath)

variable {World : Type} {files files' : Files.Tree} {root : Files.Path} {e : Files.Entry}
  {directory path : String} {name : Option String} {file : RelativePath} {found : List RelativePath}
  {f : Fault}

section
variable [Yaml.Reader]

/-- The file at a path can be read, and it decodes. -/
def Loads (files : Files.Tree) (path : String) : Prop :=
  ∃ bytes decoded, files.read path = .ok bytes ∧
    Manifest.decode .standard (some path) bytes = .ok decoded

/-- The ways in which the file at a path fails to load. It cannot be read, or the fault is that of
decoding, which names the path unless it escapes. -/
inductive LoadFails (files : Files.Tree) (path : String) : Fault → Prop where
  | unreadable {why} (hread : files.read path = .error why) :
      LoadFails files path (.load (.unreadable why) (some path))
  | undecodable {bytes f} (hread : files.read path = .ok bytes)
      (hdecode : Manifest.decode .standard (some path) bytes = .error f)
      (hnames : (∀ m, ¬ Manifest.Escapes .standard bytes m) → Manifest.Names (some path) f) :
      LoadFails files path f

theorem decodeFile_eq_ok : (∃ decoded, decodeFile files path = .ok decoded) ↔ Loads files path := by
  unfold decodeFile Loads
  cases hread : files.read path with
  | error why => simp [bind, Except.bind]
  | ok bytes => simp [bind, Except.bind]

theorem decodeFile_eq_error : decodeFile files path = .error f ↔ LoadFails files path f := by
  unfold decodeFile
  cases hread : files.read path with
  | error why =>
    simp only [bind, Except.bind, Except.mapError, Except.error.injEq]
    constructor
    · rintro rfl
      exact .unreadable hread
    · intro hf
      cases hf with
      | unreadable hread' => cases hread.symm.trans hread'; rfl
      | undecodable hread' => cases hread.symm.trans hread'
  | ok bytes =>
    simp only [bind, Except.bind, Except.mapError]
    constructor
    · intro hdecode
      exact .undecodable hread hdecode fun hescape =>
        Manifest.decode_failsOnly (some path) hescape f hdecode
    · intro hf
      cases hf with
      | unreadable hread' => cases hread.symm.trans hread'
      | undecodable hread' hdecode =>
        cases hread.symm.trans hread'
        exact hdecode

/-- A file of a directory fails to load, and those before it in the order of paths load. -/
structure FirstFailure (files : Files.Tree) (root : Files.Path) (e : Files.Entry) (file : RelativePath)
    (f : Fault) : Prop where
  held : e.Holds file
  fails : LoadFails files (filePath root file) f
  earlier : ∀ p, e.Holds p → p.text < file.text → Loads files (filePath root p)

end

section
variable [Yaml.Reader]

theorem not_loads_of_error (hf : decodeFile files path = .error f) : ¬ Loads files path := by
  intro hloads
  obtain ⟨decoded, hok⟩ := decodeFile_eq_ok.mpr hloads
  cases hf.symm.trans hok

/-- The first of the files found to fail is read under the path of the first in the order of paths. -/
theorem FirstFailure.split (hmem : ∀ p, p ∈ found ↔ e.Holds p)
    (hsorted : found.Pairwise fun p q => p.text ≤ q.text) (hf : FirstFailure files root e file f) :
    ∃ before a after, found = before ++ a :: after ∧ a.text = file.text ∧
      (∀ p ∈ before, p.text ≤ a.text ∧ ∃ decoded, decodeFile files (filePath root p) = .ok decoded) ∧
      decodeFile files (filePath root a) = .error f := by
  have hfile := decodeFile_eq_error.mpr hf.fails
  have hfound := (hmem file).mpr hf.held
  obtain ⟨f', before, a, after, rfl, hbefore, ha⟩ :=
    exists_firstError_of_mem (f := fun p => decodeFile files (filePath root p)) hfound hfile
  obtain ⟨-, hlater, horder⟩ := List.pairwise_append.mp hsorted
  have hheld := (hmem a).mp (by simp)
  have hle : file.text ≤ a.text := by
    by_contra hlt
    exact not_loads_of_error ha (hf.earlier a hheld (String.not_le.mp hlt))
  have hge : a.text ≤ file.text := by
    rcases List.mem_append.mp hfound with hfile_before | hfile_after
    · obtain ⟨decoded, hok⟩ := hbefore file hfile_before
      cases hfile.symm.trans hok
    · rcases List.mem_cons.mp hfile_after with rfl | hfile_after
      · exact String.le_refl _
      · exact (List.pairwise_cons.mp hlater).1 file hfile_after
  have htext := String.le_antisymm hge hle
  have hpath : filePath root a = filePath root file :=
    filePath_congr hheld.ne_nil hf.held.ne_nil htext
  refine ⟨before, a, after, rfl, htext, ?_, hpath ▸ hfile⟩
  intro p hp
  exact ⟨horder p hp a (by simp), hbefore p hp⟩

end

section
variable [Yaml.Reader]

end

end Stage
end StageGate
