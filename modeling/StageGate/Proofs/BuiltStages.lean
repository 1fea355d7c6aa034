import StageGate.Proofs.Computations
import StageGate.Proofs.DiscoveredFiles
import StageGate.Stage.Build

/-!
Built stages: what a stage holds of the files of its directory. The controls go with the recognized
manifests one by one, while the bundle keeps the last manifest of each kind.
-/

namespace StageGate
open Files (RelativePath filePath)

namespace Bundle

theorem foldl_put_other {k : Kind} {rs : List Resource} (hrs : ∀ r ∈ rs, r.kind ≠ k) (b : Bundle) :
    (rs.foldl put b).get k = b.get k := by
  induction rs generalizing b with
  | nil => rfl
  | cons r rs ih =>
    obtain ⟨hr, hrest⟩ := List.forall_mem_cons.mp hrs
    rw [List.foldl_cons, ih hrest, get_put_other b r (Ne.symm hr)]

/-- What is in a slot has been put there, or was there before. -/
theorem foldl_put_mem {k : Kind} {r : Resource} {rs : List Resource} {b : Bundle}
    (hr : (rs.foldl put b).get k = some r) : r ∈ rs ∧ r.kind = k ∨ b.get k = some r := by
  induction rs generalizing b with
  | nil => exact .inr hr
  | cons first rs ih =>
    rcases ih hr with ⟨hmem, hkind⟩ | hold
    · exact .inl ⟨List.mem_cons_of_mem _ hmem, hkind⟩
    · by_cases hk : k = first.kind
      · subst hk
        rw [get_put_same] at hold
        cases hold
        exact .inl ⟨List.mem_cons_self, rfl⟩
      · rw [get_put_other b first hk] at hold
        exact .inr hold

/-- Once a resource has been put, the slot of its kind stays taken. -/
theorem exists_foldl_put {r : Resource} {rs : List Resource} (hr : r ∈ rs) (b : Bundle) :
    ∃ r', (rs.foldl put b).get r.kind = some r' := by
  induction rs generalizing b r with
  | nil => simp at hr
  | cons first rs ih =>
    by_cases hlater : ∃ r' ∈ rs, r'.kind = r.kind
    · obtain ⟨r', hr', hkind⟩ := hlater
      rw [← hkind]
      exact ih hr' (b.put first)
    · have hfirst : r = first := by
        rcases List.mem_cons.mp hr with heq | hmem
        · exact heq
        · exact absurd ⟨r, hmem, rfl⟩ hlater
      have hnone : ∀ r' ∈ rs, r'.kind ≠ r.kind := fun r' hr' hkind => hlater ⟨r', hr', hkind⟩
      rw [List.foldl_cons, foldl_put_other hnone, hfirst, get_put_same]
      exact ⟨_, rfl⟩

end Bundle

namespace Stage
variable {World : Type} {files : Files.Tree} {directory : Files.Path}
  {decode : String → Except Fault Manifest.Decoded}

/-- The resource that a file of a directory is recognized as. -/
def recognized? (decode : String → Except Fault Manifest.Decoded) (directory : Files.Path)
    (file : RelativePath) : Option Resource :=
  match decode (filePath directory file) with
  | .ok (.recognized _ r) => some r
  | _ => none

theorem recognized?_eq_some {file : RelativePath} {r : Resource} :
    recognized? decode directory file = some r ↔
      ∃ slot, decode (filePath directory file) = .ok (.recognized slot r) := by
  unfold recognized?
  split
  · rename_i slot r' hd
    simp [hd]
  · rename_i hd
    simp only [reduceCtorEq, false_iff, not_exists]
    exact fun slot => hd slot r

/-- Files with the same relative path are read under the same path. -/
theorem filePath_congr {p q : RelativePath} (hp : p ≠ []) (hq : q ≠ []) (ht : p.text = q.text) :
    filePath directory p = filePath directory q := by
  have hjoin (file : RelativePath) (hf : file ≠ []) : filePath directory file =
      directory.anchor.text ++ "/".intercalate (directory.parts ++ file) := by
    simp [filePath, Files.Path.join, Files.Path.text, hf]
  rw [hjoin p hp, hjoin q hq]
  by_cases hparts : directory.parts = []
  · rw [hparts, List.nil_append, List.nil_append]
    exact congrArg _ ht
  · rw [String.intercalate_append_of_ne_nil hparts hp, String.intercalate_append_of_ne_nil hparts hq]
    exact congrArg _ (congrArg _ ht)

theorem addFiles_cons_ok {stage : String} {file : RelativePath} {rest : List RelativePath} {d d' : Draft} :
    (addFiles stage directory decode d (file :: rest)).result = .ok d' ↔
      ∃ decoded, decode (filePath directory file) = .ok decoded ∧
        (addFiles stage directory decode (d.add decoded file.text) rest).result = .ok d' := by
  simp only [addFiles]
  cases hd : decode (filePath directory file) with
  | error f => simp
  | ok decoded => simp

/-- Files that are all added add what they are recognized as, in their order. -/
theorem addFiles_resources {stage : String} {found : List RelativePath} {d d' : Draft}
    (hok : (addFiles stage directory decode d found).result = .ok d') :
    d'.resources = d.resources ++ found.filterMap (recognized? decode directory) := by
  induction found generalizing d with
  | nil =>
    cases hok
    simp
  | cons file rest ih =>
    obtain ⟨decoded, hd, hrest⟩ := addFiles_cons_ok.mp hok
    rw [ih hrest]
    cases decoded with
    | recognized slot r => simp [Draft.add, recognized?, hd]
    | unrecognized kind => simp [Draft.add, recognized?, hd]

theorem manifests_eq_ok {found : List RelativePath} :
    manifests files directory = .ok found ↔ Files.discover files directory = .ok found := by
  unfold manifests
  exact mapError_eq_ok

section
variable [Yaml.Reader]

/-- A build succeeds when the directory can be searched and all files can be added. -/
theorem build_eq_ok {directory : String} {name : Option String} {s : Stage World} :
    (build World files directory name).result = .ok s ↔
      ∃ found d, Files.discover files (.ofText directory) = .ok found ∧
        (addFiles (nameFor name (.ofText directory)) (.ofText directory) (decodeFile files) .empty
          found).result = .ok d ∧
        s = d.toStage World (nameFor name (.ofText directory))
          (Files.Path.ofText directory).text := by
  unfold build
  cases hm : manifests files (.ofText directory) with
  | error f =>
    have hm' (found : List RelativePath) :
        Files.discover files (.ofText directory) ≠ .ok found := by
      rw [Ne, ← manifests_eq_ok, hm]
      simp
    simp [hm, hm']
  | ok found =>
    have hdiscover := manifests_eq_ok.mp hm
    cases hd : (addFiles (nameFor name (.ofText directory)) (.ofText directory) (decodeFile files)
        .empty found).result with
    | error f => simp [hm, hd, hdiscover]
    | ok d => simp [hm, hd, hdiscover, eq_comm]

/-- A built stage is made of what the files that are found are recognized as. -/
theorem build_resources {directory : String} {name : Option String} {s : Stage World}
    (hbuild : (build World files directory name).result = .ok s) :
    ∃ (found : List RelativePath) (d : Draft), Files.discover files (.ofText directory) = .ok found ∧
      d.resources = found.filterMap (recognized? (decodeFile files) (.ofText directory)) ∧
      s = d.toStage World (nameFor name (.ofText directory)) (Files.Path.ofText directory).text := by
  obtain ⟨found, d, hfound, hadded, hs⟩ := build_eq_ok.mp hbuild
  have hresources := addFiles_resources hadded
  rw [Draft.empty, List.nil_append] at hresources
  exact ⟨found, d, hfound, hresources, hs⟩

/-- A regular file that the directory holds declares a resource. -/
structure Declares (files : Files.Tree) (directory : Files.Path) (file : RelativePath)
    (r : Resource) : Prop where
  held : ∃ e, files.find directory.text = .ok e ∧ e.Holds file
  recognized : ∃ slot, decodeFile files (filePath directory file) = .ok (.recognized slot r)

theorem declares_iff {found : List RelativePath} {file : RelativePath} {r : Resource}
    (hfound : Files.discover files directory = .ok found) :
    Declares files directory file r ↔
      file ∈ found ∧ recognized? (decodeFile files) directory file = some r := by
  obtain ⟨e, hfind, hmem, -⟩ := Files.discover_ok hfound
  rw [recognized?_eq_some, hmem]
  constructor
  · rintro ⟨⟨e', hfind', hheld⟩, hr⟩
    cases hfind.symm.trans hfind'
    exact ⟨hheld, hr⟩
  · rintro ⟨hheld, hr⟩
    exact ⟨⟨e, hfind, hheld⟩, hr⟩

end

/-- Of the files that declare resources of one kind, the bundle keeps the one whose path comes last. -/
theorem foldl_put_latest {found : List RelativePath} {file : RelativePath} {r : Resource}
    (hsorted : found.Pairwise fun p q => p.text ≤ q.text) (hne : ∀ p ∈ found, p ≠ [])
    (hfile : file ∈ found) (hr : recognized? decode directory file = some r)
    (hlatest : ∀ p ∈ found, ∀ r', recognized? decode directory p = some r' → r'.kind = r.kind →
      p.text ≤ file.text) (b : Bundle) :
    ((found.filterMap (recognized? decode directory)).foldl Bundle.put b).get r.kind = some r := by
  induction found generalizing b file with
  | nil => simp at hfile
  | cons first rest ih =>
    obtain ⟨hfirst, hsorted_rest⟩ := List.pairwise_cons.mp hsorted
    obtain ⟨hne_first, hne_rest⟩ := List.forall_mem_cons.mp hne
    obtain ⟨_, hlatest_rest⟩ := List.forall_mem_cons.mp hlatest
    -- a later file of the kind takes the slot anyway, so the first file matters only without one
    by_cases hlater : ∃ p ∈ rest, ∃ r', recognized? decode directory p = some r' ∧ r'.kind = r.kind
    · have hrest (b : Bundle) :
          ((rest.filterMap (recognized? decode directory)).foldl Bundle.put b).get r.kind =
            some r := by
        rcases List.mem_cons.mp hfile with rfl | hfile
        · -- the later file comes neither before nor after: it is read under the same path
          obtain ⟨p, hp, r', hr', hkind⟩ := hlater
          have htext : p.text = file.text :=
            String.le_antisymm (hlatest_rest p hp r' hr' hkind) (hfirst p hp)
          have hsame : recognized? decode directory p = recognized? decode directory file := by
            unfold recognized?
            rw [filePath_congr (hne_rest p hp) hne_first htext]
          exact ih hsorted_rest hne_rest hp (hsame.trans hr) (htext ▸ hlatest_rest) b
        · exact ih hsorted_rest hne_rest hfile hr hlatest_rest b
      cases hrec : recognized? decode directory first with
      | none => simpa [List.filterMap_cons, hrec] using hrest b
      | some r' => simpa [List.filterMap_cons, hrec] using hrest (b.put r')
    · have hfirst_file : file = first := by
        rcases List.mem_cons.mp hfile with heq | hmem
        · exact heq
        · exact absurd ⟨file, hmem, r, hr, rfl⟩ hlater
      subst hfirst_file
      have hafter : ∀ r' ∈ rest.filterMap (recognized? decode directory), r'.kind ≠ r.kind := by
        intro r' hr' hkind
        obtain ⟨p, hp, hrec⟩ := List.mem_filterMap.mp hr'
        exact hlater ⟨p, hp, r', hrec, hkind⟩
      rw [List.filterMap_cons_some hr, List.foldl_cons, Bundle.foldl_put_other hafter,
        Bundle.get_put_same]

variable {name : Option String} {s : Stage World}

variable [Yaml.Reader]

/-- Each control of a built stage has a resource in its slot. -/
theorem build_filled {directory : String} (hbuild : (build World files directory name).result = .ok s)
    {c : Control World} (hc : c ∈ s.controls) :
    ∃ k r, c = Readiness.control World k ∧ s.bundle.get k = some r := by
  obtain ⟨found, d, -, -, rfl⟩ := build_resources hbuild
  obtain ⟨r, hr, rfl⟩ := List.mem_map.mp hc
  obtain ⟨r', hr'⟩ := Bundle.exists_foldl_put hr .empty
  exact ⟨r.kind, r', rfl, hr'⟩

/-- The controls of a built stage are those of kinds. -/
theorem build_controls {directory : String}
    (hbuild : (build World files directory name).result = .ok s) :
    ∀ c ∈ s.controls, ∃ k, c = Readiness.control World k := by
  intro c hc
  obtain ⟨k, -, hk, -⟩ := build_filled hbuild hc
  exact ⟨k, hk⟩

/-- A resource in a slot is of the kind of the slot, and a file declares it. -/
theorem build_slot {directory : String} (hbuild : (build World files directory name).result = .ok s)
    {k : Kind} {r : Resource} (hr : s.bundle.get k = some r) :
    r.kind = k ∧ ∃ path slot, decodeFile files path = .ok (.recognized slot r) := by
  obtain ⟨found, d, -, hresources, rfl⟩ := build_resources hbuild
  rcases Bundle.foldl_put_mem hr with ⟨hmem, hkind⟩ | hempty
  · rw [hresources] at hmem
    obtain ⟨file, -, hfile⟩ := List.mem_filterMap.mp hmem
    exact ⟨hkind, _, recognized?_eq_some.mp hfile⟩
  · cases hempty

/-- A built stage has a control for each declared resource, and the last of a kind in its bundle. -/
theorem build_declares {directory : String} {file : RelativePath} {r : Resource}
    (hbuild : (build World files directory name).result = .ok s)
    (hfile : Declares files (.ofText directory) file r)
    (hlatest : ∀ p r', Declares files (.ofText directory) p r' → r'.kind = r.kind →
      p.text ≤ file.text) :
    Readiness.control World r.kind ∈ s.controls ∧ s.bundle.get r.kind = some r := by
  obtain ⟨found, d, hfound, hresources, rfl⟩ := build_resources hbuild
  obtain ⟨e, -, hheld, hsorted⟩ := Files.discover_ok hfound
  obtain ⟨hmem, hr⟩ := (declares_iff hfound).mp hfile
  constructor
  · refine List.mem_map.mpr ⟨r, ?_, rfl⟩
    rw [hresources]
    exact List.mem_filterMap.mpr ⟨file, hmem, hr⟩
  · have hne : ∀ p ∈ found, p ≠ [] := fun p hp => ((hheld p).mp hp).ne_nil
    have hlatest' : ∀ p ∈ found, ∀ r',
        recognized? (decodeFile files) (.ofText directory) p = some r' → r'.kind = r.kind →
          p.text ≤ file.text :=
      fun p hp r' hr' => hlatest p r' ((declares_iff hfound).mpr ⟨hp, hr'⟩)
    have hkept := foldl_put_latest hsorted hne hmem hr hlatest' .empty
    rwa [← hresources] at hkept

end Stage
end StageGate
