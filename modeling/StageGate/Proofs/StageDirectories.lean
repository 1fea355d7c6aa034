import StageGate.Proofs.PathTexts
import StageGate.Proofs.ValidConfigs

/-!
The directories of a configuration. Its stages have different names, but a directory can be spelt in many
ways: with slashes at the end or twice in a row, with dots, or from the root. Two stages have one directory
just if their names spell the same, and none have if the names are plain.
-/

namespace StageGate
open Files (segments IsPart)

namespace Config

/-- A name that is taken from a base, since it starts with no slash. -/
def Relative (name : String) : Prop :=
  Files.Path.anchorOf name = .relative

/-- Two names spell one directory: by the same parts, or from the root where the base is spelt out. -/
inductive SameDirectory (base : String) : String → String → Prop where
  | relative {s t} (hs : Relative s) (ht : Relative t) (hparts : segments s = segments t) :
      SameDirectory base s t
  | rooted {s t} (hs : ¬ Relative s) (hroot : Files.Path.anchorOf s = Files.Path.anchorOf t)
      (hparts : segments s = segments t) : SameDirectory base s t
  | spelt {s t} (hs : Relative s) (ht : ¬ Relative t)
      (hroot : Files.Path.anchorOf base = Files.Path.anchorOf t)
      (hparts : segments base ++ segments s = segments t) : SameDirectory base s t
  | symm {s t} (h : SameDirectory base s t) : SameDirectory base t s

/-- The directory of a stage. -/
def directory (base name : String) : Files.Path :=
  (Files.Path.ofText base).join (.ofText name)

variable {base s t : String}

theorem directory_normal (base name : String) : (directory base name).Normal :=
  (Files.Path.normal_ofText base).join (Files.Path.normal_ofText name)

theorem directory_relative (hs : Relative s) :
    directory base s = ⟨Files.Path.anchorOf base, segments base ++ segments s⟩ := by
  have hs : Files.Path.anchorOf s = .relative := hs
  simp [directory, Files.Path.join, Files.Path.ofText, Files.Path.partsOf_eq, hs]

theorem directory_rooted (hs : ¬ Relative s) :
    directory base s = ⟨Files.Path.anchorOf s, segments s⟩ := by
  have hs : Files.Path.anchorOf s ≠ .relative := hs
  simp [directory, Files.Path.join, Files.Path.ofText, Files.Path.partsOf_eq, hs]

theorem SameDirectory.directory_eq (h : SameDirectory base s t) : directory base s = directory base t := by
  induction h with
  | relative hs ht hparts => rw [directory_relative hs, directory_relative ht, hparts]
  | rooted hs hroot hparts =>
    have ht := hs
    unfold Relative at ht
    rw [hroot] at ht
    rw [directory_rooted hs, directory_rooted ht, hroot, hparts]
  | spelt hs ht hroot hparts => rw [directory_relative hs, directory_rooted ht, hroot, hparts]
  | symm _ ih => exact ih.symm

theorem directory_eq_iff : directory base s = directory base t ↔ SameDirectory base s t := by
  refine ⟨fun h => ?_, SameDirectory.directory_eq⟩
  by_cases hs : Relative s <;> by_cases ht : Relative t
  · rw [directory_relative hs, directory_relative ht, Files.Path.mk.injEq] at h
    exact .relative hs ht (List.append_cancel_left h.2)
  · rw [directory_relative hs, directory_rooted ht, Files.Path.mk.injEq] at h
    exact .spelt hs ht h.1 h.2
  · rw [directory_rooted hs, directory_relative ht, Files.Path.mk.injEq] at h
    exact .symm (.spelt ht hs h.1.symm h.2.symm)
  · rw [directory_rooted hs, directory_rooted ht, Files.Path.mk.injEq] at h
    exact .rooted hs h.1 h.2

/-- A plain name is its own only part. -/
theorem segments_plain (hs : IsPart s) : segments s = [s] := by
  have hparts : ∀ part ∈ [s], IsPart part := by simpa using hs
  simpa using Files.segments_intercalate hparts

theorem relative_plain (hs : IsPart s) : Relative s := by
  have hslash : s.toList.head? ≠ some '/' := fun h => hs.slashless (List.mem_of_head? h)
  have hanchor := Files.Path.anchorOf_text .relative hslash
  rwa [Files.Anchor.text, String.empty_append] at hanchor

theorem SameDirectory.eq_of_plain (hs : IsPart s) (ht : IsPart t) (h : SameDirectory base s t) : s = t := by
  have heq := directory_eq_iff.mpr h
  rw [directory_relative (relative_plain hs), directory_relative (relative_plain ht), segments_plain hs,
    segments_plain ht] at heq
  simpa using heq

variable {data : Value} {c : Config}

theorem stages_named (hc : ofValue data = .ok c) : NamesStages c.stages := by
  obtain ⟨es, -, hvalid, hstates⟩ := exists_states hc
  rcases hstates.stages.given_or_absent with hgiven | ⟨-, hstages⟩
  · obtain ⟨names, heq, hnames⟩ := hvalid.stages _ hgiven
    rwa [texts_inj heq]
  · rw [hstages]
    exact ⟨by decide, by decide, by decide⟩

theorem nodup_stageDirs_iff (c : Config) : (c.stageDirs.map Prod.snd).Nodup ↔
    c.stages.Pairwise fun s t => ¬ SameDirectory c.assetsDir s t := by
  rw [List.Nodup, stageDirs, List.map_map, List.pairwise_map]
  refine List.Pairwise.iff fun s t => not_congr ?_
  exact ((directory_normal _ s).text_inj (directory_normal _ t)).trans directory_eq_iff

/-- The directories of a configuration are different just if no two of its stages spell the same one, which
plain names do not. -/
theorem stageDirs_distinct (hc : ofValue data = .ok c) :
    ((c.stageDirs.map Prod.snd).Nodup ↔
      c.stages.Pairwise fun s t => ¬ SameDirectory c.assetsDir s t) ∧
      ((∀ s ∈ c.stages, IsPart s) → (c.stageDirs.map Prod.snd).Nodup) := by
  refine ⟨nodup_stageDirs_iff c, fun hplain => ?_⟩
  rw [nodup_stageDirs_iff]
  refine (stages_named hc).distinct.imp_of_mem fun hs ht hne hsame => hne ?_
  exact hsame.eq_of_plain (hplain _ hs) (hplain _ ht)

def gateData : Value :=
  .map false [(.str "stages", .list [.str "gate", .str "nodes"])]

/-- Two stages with plain names. -/
theorem gateData_distinct :
    ofValue gateData = .ok { standard with stages := ["gate", "nodes"] } ∧
      (∀ s ∈ ["gate", "nodes"], IsPart s) ∧ ["/opt/nfd/gate", "/opt/nfd/nodes"].Nodup := by
  have hc : ofValue gateData = .ok { standard with stages := ["gate", "nodes"] } := rfl
  have hplain : ∀ s ∈ ["gate", "nodes"], IsPart s := by
    simp only [List.forall_mem_cons, List.not_mem_nil, false_implies, implies_true, and_true]
    exact ⟨⟨by decide, by decide, by decide⟩, ⟨by decide, by decide, by decide⟩⟩
  exact ⟨hc, hplain, (stageDirs_distinct hc).2 hplain⟩

def slashedData : Value :=
  .map false [(.str "stages", .list [.str "a", .str "a/"])]

/-- Two spellings of a name are accepted as two stages, with one directory. -/
theorem slashedData_repeats :
    ¬ ∀ data c, ofValue data = .ok c → (c.stageDirs.map Prod.snd).Nodup := by
  intro hdistinct
  have hnodup := hdistinct slashedData { standard with stages := ["a", "a/"] } rfl
  exact absurd hnodup (by decide)

end Config
end StageGate
