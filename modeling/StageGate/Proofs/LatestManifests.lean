import StageGate.Proofs.BuiltStages
import StageGate.Proofs.DecodedMetadata
import StageGate.Proofs.Sweep

/-!
The latest manifests of a directory: for each kind that is declared, the manifest whose path comes last.
The bundle of the built stage holds these, while its checks go with all manifests in the order of their
paths, and each is reported by the manifest that it goes with.
-/

namespace StageGate
open Files (RelativePath)

namespace Stage
variable {World : Type} {files : Files.Tree} {directory : Files.Path}
  {decode : String → Except Fault Manifest.Decoded} {file : RelativePath} {r : Resource}

/-- A file declares a resource, and no file that declares one of the kind comes after it. -/
structure Latest [Yaml.Reader] (files : Files.Tree) (directory : Files.Path) (file : RelativePath)
    (r : Resource) : Prop where
  declares : Declares files directory file r
  last : ∀ p r', Declares files directory p r' → r'.kind = r.kind → p.text ≤ file.text

theorem Declares.textual [Yaml.Reader] (hfile : Declares files directory file r) : r.metadata.Textual := by
  obtain ⟨slot, hr⟩ := hfile.recognized
  obtain ⟨bytes, -, hdecoded⟩ := bind_eq_ok.mp hr
  exact Manifest.decode_textual hdecoded

/-- Of the files recognized as resources of a kind one comes last, by induction along the sorted files. -/
theorem exists_last_recognized {found : List RelativePath}
    (hsorted : found.Pairwise fun p q => p.text ≤ q.text) (hfile : file ∈ found)
    (hr : recognized? decode directory file = some r) :
    ∃ p ∈ found, ∃ r', recognized? decode directory p = some r' ∧ r'.kind = r.kind ∧
      ∀ q ∈ found, ∀ r'', recognized? decode directory q = some r'' → r''.kind = r.kind →
        q.text ≤ p.text := by
  induction found generalizing file r with
  | nil => simp at hfile
  | cons first rest ih =>
    obtain ⟨hfirst, hrest⟩ := List.pairwise_cons.mp hsorted
    by_cases hlater : ∃ p ∈ rest, ∃ r', recognized? decode directory p = some r' ∧ r'.kind = r.kind
    · obtain ⟨p, hp, r', hr', hkind⟩ := hlater
      obtain ⟨q, hq, r'', hr'', hkind', hlast⟩ := ih hrest hp hr'
      rw [hkind] at hkind' hlast
      exact ⟨q, List.mem_cons_of_mem _ hq, r'', hr'', hkind', List.forall_mem_cons.mpr
        ⟨fun _ _ _ => hfirst q hq, hlast⟩⟩
    · have hnone : ∀ q ∈ rest, ∀ r', recognized? decode directory q = some r' → r'.kind ≠ r.kind := by
        intro q hq r' hr' hkind
        exact hlater ⟨q, hq, r', hr', hkind⟩
      have hthis : file = first := by
        rcases List.mem_cons.mp hfile with heq | hmem
        · exact heq
        · exact absurd rfl (hnone file hmem r hr)
      subst hthis
      refine ⟨file, List.mem_cons_self, r, hr, rfl, List.forall_mem_cons.mpr ⟨?_, ?_⟩⟩
      · intro _ _ _
        exact String.le_refl _
      · intro q hq r' hr' hkind
        exact absurd hkind (hnone q hq r' hr')

section
variable {directory : String} {name : Option String} {s : Stage World}

section
variable [Yaml.Reader]

/-- For each kind that is declared some file declares the latest resource. -/
theorem exists_latest (hbuild : (build World files directory name).result = .ok s)
    (hfile : Declares files (.ofText directory) file r) :
    ∃ p r', Latest files (.ofText directory) p r' ∧ r'.kind = r.kind := by
  obtain ⟨found, d, hfound, -, -⟩ := build_resources hbuild
  obtain ⟨e, -, -, hsorted⟩ := Files.discover_ok hfound
  obtain ⟨hmem, hr⟩ := (declares_iff hfound).mp hfile
  obtain ⟨p, hp, r', hr', hkind, hlast⟩ := exists_last_recognized hsorted hmem hr
  refine ⟨p, r', ⟨(declares_iff hfound).mpr ⟨hp, hr'⟩, ?_⟩, hkind⟩
  intro q r'' hq hkind'
  obtain ⟨hq', hr''⟩ := (declares_iff hfound).mp hq
  exact hlast q hq' r'' hr'' (hkind'.trans hkind)

theorem Latest.slot (hbuild : (build World files directory name).result = .ok s)
    (hr : Latest files (.ofText directory) file r) : s.bundle.get r.kind = some r :=
  (build_declares hbuild hr.declares hr.last).2

/-- No two resources of a kind are the latest, as the bundle has one slot for the kind. -/
theorem Latest.unique (hbuild : (build World files directory name).result = .ok s) {p : RelativePath}
    {r' : Resource} (hr : Latest files (.ofText directory) file r)
    (hr' : Latest files (.ofText directory) p r') (hkind : r'.kind = r.kind) : r' = r := by
  have hslot := hr.slot hbuild
  have hslot' := hr'.slot hbuild
  rw [hkind, hslot] at hslot'
  exact (Option.some.inj hslot').symm

/-- The slot of a kind that is declared holds the latest resource of the kind. -/
theorem exists_latest_slot (hbuild : (build World files directory name).result = .ok s)
    (hfile : Declares files (.ofText directory) file r) :
    ∃ p r', Latest files (.ofText directory) p r' ∧ r'.kind = r.kind ∧ s.bundle.get r.kind = some r' := by
  obtain ⟨p, r', hlatest, hkind⟩ := exists_latest hbuild hfile
  have hslot := hlatest.slot hbuild
  rw [hkind] at hslot
  exact ⟨p, r', hlatest, hkind, hslot⟩

end

/-- The check goes with a resource: it is that of the control of its kind, and it is reported by its kind
and name. -/
structure GoesWith (c : Check World) (s : Stage World) (r : Resource) : Prop where
  stage : c.stage = s
  control : c.control = Readiness.control World r.kind
  entry : c.entry = ⟨r.kind.name, r.name⟩

theorem toStage_checks (World : Type) (stageName path : String) (d : Draft) (n : Nat) :
    List.Forall₂ (fun r c => GoesWith c (d.toStage World stageName path) r) d.resources
      ((d.toStage World stageName path).checks n) := by
  refine List.forall₂_of_length_eq_of_get (by simp [checks, Draft.toStage]) ?_
  intro i hi hi'
  constructor
  case stage => simp [checks]
  case control => simp [checks, Draft.toStage]
  case entry => simp [checks, Draft.toStage, Check.entry, Stage.entry, hi]

variable [Yaml.Reader]

/-- The checks of a built stage go with the declared resources in the order of their paths: those of all
earlier files come before a check. -/
theorem exists_goesWith (hbuild : (build World files directory name).result = .ok s) {n : Nat}
    {before after : List (Check World)} {c : Check World} (hsplit : s.checks n = before ++ c :: after) :
    ∃ file r, Declares files (.ofText directory) file r ∧ GoesWith c s r ∧
      ∀ p r', Declares files (.ofText directory) p r' → p.text < file.text →
        ∃ d ∈ before, GoesWith d s r' := by
  obtain ⟨found, d, hfound, hresources, rfl⟩ := build_resources hbuild
  obtain ⟨e, -, -, hsorted⟩ := Files.discover_ok hfound
  have hchecks := toStage_checks World (nameFor name (.ofText directory))
    (Files.Path.ofText directory).text d n
  rw [hsplit] at hchecks
  obtain ⟨front, r, rear, hd, hbefore, hr⟩ := exists_split_of_forall₂ hchecks
  rw [hd] at hresources
  obtain ⟨earlier, file, later, rfl, hearlier, hfile⟩ := exists_split_of_filterMap hresources.symm
  refine ⟨file, r, (declares_iff hfound).mpr ⟨by simp, hfile⟩, hr, ?_⟩
  intro p r' hp hlt
  obtain ⟨hmem, hr'⟩ := (declares_iff hfound).mp hp
  have hfront : p ∈ earlier := by
    refine (List.mem_append.mp hmem).resolve_right fun hlater => ?_
    obtain ⟨-, hfollow, -⟩ := List.pairwise_append.mp hsorted
    rcases List.mem_cons.mp hlater with rfl | hlater
    · exact String.lt_irrefl _ hlt
    · exact String.not_lt.mpr ((List.pairwise_cons.mp hfollow).1 p hlater) hlt
  have hkept : r' ∈ front := by
    rw [← hearlier]
    exact List.mem_filterMap.mpr ⟨p, hfront, hr'⟩
  exact exists_related_of_mem hbefore hkept

theorem Declares.exists_check (hbuild : (build World files directory name).result = .ok s)
    (hfile : Declares files (.ofText directory) file r) (n : Nat) :
    ∃ c ∈ s.checks n, GoesWith c s r := by
  obtain ⟨found, d, hfound, hresources, rfl⟩ := build_resources hbuild
  obtain ⟨hmem, hr⟩ := (declares_iff hfound).mp hfile
  have hdeclared : r ∈ d.resources := by
    rw [hresources]
    exact List.mem_filterMap.mpr ⟨file, hmem, hr⟩
  exact exists_related_of_mem (toStage_checks World _ _ d n) hdeclared

theorem exists_goesWith_of_mem (hbuild : (build World files directory name).result = .ok s) {n : Nat}
    {c : Check World} (hc : c ∈ s.checks n) :
    ∃ file r, Declares files (.ofText directory) file r ∧ GoesWith c s r := by
  obtain ⟨before, after, hsplit⟩ := List.append_of_mem hc
  obtain ⟨file, r, hfile, hr, -⟩ := exists_goesWith hbuild hsplit
  exact ⟨file, r, hfile, hr⟩

end
end Stage
end StageGate
