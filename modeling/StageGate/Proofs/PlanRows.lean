import StageGate.CommandLine.Run
import StageGate.Proofs.LatestManifests
import StageGate.Proofs.StageContents
import StageGate.Proofs.StageLoading

/-!
The rows of a plan. In each directory the recognized manifests are numbered in the order of their paths, and
the skipped files come after them. The row of a manifest has its own kind and name, but the namespace of the
last manifest of the kind, as that is the one the bundle keeps.
-/

namespace StageGate
open Files (RelativePath)

namespace Plan
variable {World : Type} {files : Files.Tree} {directories : List (String × String)}
  {d : String × String} {found : List RelativePath} {rs : List Resource} {r : Resource} {stage : String}

/-- What a cell shows of a field: its text, or a hyphen where it is empty or missing. -/
inductive Shown : Value → String → Prop where
  | text {s} (hs : s ≠ "") : Shown (.str s) s
  | empty : Shown (.str "") "-"
  | missing : Shown .null "-"

/-- The last of the manifests of a kind. -/
def lastOf (rs : List Resource) (k : Kind) : Option Resource :=
  (rs.filter fun r => r.kind = k).getLast?

/-- The numbered row of a manifest, with the namespace of `home`. -/
def RowOf (stage : String) (r home : Resource) (number : Nat) (row : List String) : Prop :=
  ∃ name place, Shown r.name name ∧ Shown home.metadata.namespaceName place ∧
    row = [stage, toString number, r.kind.name, name, place]

/-- The rows of the manifests, numbered from one, each with the namespace of the manifest that `homeOf`
takes it from. -/
def Numbered (stage : String) (homeOf : Resource → Option Resource) (rs : List Resource)
    (rows : List (List String)) : Prop :=
  List.Forall₂ (fun x row => ∃ home, homeOf x.1 = some home ∧ RowOf stage x.1 home x.2 row)
    (rs.zipIdx 1) rows

/-- The row of a skipped file. -/
def skipRow (stage file : String) : List String :=
  [stage, "-", "[yellow]skipped[/yellow]", file, "-"]

/-- The part of a plan that shows a directory. -/
structure Part where
  numbered : List (List String)
  skipped : List (List String)

def Part.rows (p : Part) : List (List String) :=
  p.numbered ++ p.skipped

/-- The part shows the files that are found in a directory: a numbered row for each manifest, and a row for
each skipped file. The numbered rows are those of the manifests as they are declared just if each manifest
has the namespace of the last one of its kind. -/
structure ShowsFiles [Yaml.Reader] (files : Files.Tree) (root : Files.Path) (stage : String)
    (found : List RelativePath) (rs : List Resource) (p : Part) : Prop where
  recognized : rs = found.filterMap (Stage.recognized? (Stage.decodeFile files) root)
  numbered : Numbered stage (fun r => lastOf rs r.kind) rs p.numbered
  own : Numbered stage some rs p.numbered ↔ ∀ r ∈ rs, ∀ last, lastOf rs r.kind = some last →
    ∃ cell, Shown r.metadata.namespaceName cell ∧ Shown last.metadata.namespaceName cell
  skipped : p.skipped =
    (Stage.filesSkipped (Stage.decodeFile files) root found).map fun file => skipRow stage file.text

/-- The part shows the files of a named directory in the order of their paths. -/
def ShowsDirectory [Yaml.Reader] (files : Files.Tree) (d : String × String) (p : Part) : Prop :=
  ∃ found rs, Files.discover files (.ofText d.2) = .ok found ∧
    (found.Pairwise fun p q => p.text ≤ q.text) ∧
    ShowsFiles files (.ofText d.2) (Stage.nameFor (some d.1) (.ofText d.2)) found rs p

/-! Cells. -/

theorem Shown.unique {v : Value} {cell cell' : String} (h : Shown v cell) (h' : Shown v cell') :
    cell = cell' := by
  cases h <;> cases h' <;> first | rfl | contradiction

theorem shown_cell {v : Value} (hv : v = .null ∨ ∃ s, v = .str s) : Shown v (cell v) := by
  rcases hv with rfl | ⟨s, rfl⟩
  · exact .missing
  · by_cases hs : s = ""
    · subst hs
      exact .empty
    · have hcell : cell (.str s) = s := by simp [cell, Value.isPresent, Value.display, hs]
      rw [hcell]
      exact .text hs

/-! Rows. -/

theorem exists_lastOf (hr : r ∈ rs) : ∃ last ∈ rs, lastOf rs r.kind = some last := by
  have hne : (rs.filter fun r' => r'.kind = r.kind) ≠ [] :=
    List.ne_nil_of_mem (List.mem_filter.mpr ⟨hr, by simp⟩)
  refine ⟨_, ?_, List.getLast?_eq_some_getLast hne⟩
  exact List.mem_of_mem_filter (List.getLast_mem hne)

/-- A row that is made of a numbered manifest, with given texts for its name and its namespace. -/
def rowWith (stage : String) (name place : Resource → String) (x : Resource × Nat) : List String :=
  [stage, toString x.2, x.1.kind.name, name x.1, place x.1]

/-- Rows that are made of the manifests one by one are their numbered rows just if the texts show the names
and the namespaces. -/
theorem numbered_map_iff {homeOf : Resource → Option Resource} {name place : Resource → String} :
    Numbered stage homeOf rs ((rs.zipIdx 1).map (rowWith stage name place)) ↔
      ∀ r ∈ rs, Shown r.name (name r) ∧
        ∃ home, homeOf r = some home ∧ Shown home.metadata.namespaceName (place r) := by
  unfold Numbered RowOf rowWith
  rw [List.forall₂_map_right_iff, List.forall₂_same]
  -- the cells do not look at the number, so the numbered manifests may be taken without it
  have hrs : rs = (rs.zipIdx 1).map Prod.fst := (List.zipIdx_map_fst 1 rs).symm
  conv_rhs => rw [hrs]
  rw [List.forall_mem_map]
  refine forall₂_congr fun x _ => ?_
  constructor
  · rintro ⟨home, hhome, name', place', hname, hplace, heq⟩
    simp only [List.cons.injEq, true_and, and_true] at heq
    obtain ⟨rfl, rfl⟩ := heq
    exact ⟨hname, home, hhome, hplace⟩
  · rintro ⟨hname, home, hhome, hplace⟩
    exact ⟨home, hhome, _, _, hname, hplace, rfl⟩

theorem own_iff {name place : Resource → String}
    (hrows : ∀ r ∈ rs, Shown r.name (name r) ∧
      ∃ last, lastOf rs r.kind = some last ∧ Shown last.metadata.namespaceName (place r)) :
    Numbered stage some rs ((rs.zipIdx 1).map (rowWith stage name place)) ↔
      ∀ r ∈ rs, ∀ last, lastOf rs r.kind = some last →
        ∃ cell, Shown r.metadata.namespaceName cell ∧ Shown last.metadata.namespaceName cell := by
  rw [numbered_map_iff]
  refine forall₂_congr fun r hr => ?_
  obtain ⟨hname, last, hlast, hplace⟩ := hrows r hr
  constructor
  · rintro ⟨-, home, hhome, hown⟩ last' hlast'
    cases hhome
    cases hlast.symm.trans hlast'
    exact ⟨_, hown, hplace⟩
  · intro hsame
    obtain ⟨cell, hown, hcell⟩ := hsame last hlast
    rw [hcell.unique hplace] at hown
    exact ⟨hname, r, rfl, hown⟩

/-! The part of a stage. -/

/-- The namespace of the last manifest of a kind. -/
def lastNamespace (rs : List Resource) (k : Kind) : Value :=
  (lastOf rs k).elim .null fun last => last.metadata.namespaceName

/-- The part that shows what the files of a stage are decoded to. -/
def partOf (stage : String) (draft : Draft) : Part where
  numbered := (draft.resources.zipIdx 1).map
    (rowWith stage (fun r => cell r.name) fun r => cell (lastNamespace draft.resources r.kind))
  skipped := draft.skipped.map (skipRow stage)

theorem namespaceOf_toStage (draft : Draft) (path : String) (k : Kind) :
    namespaceOf (draft.toStage World stage path) k.name = lastNamespace draft.resources k := by
  have hslot : draft.bundle.get k = lastOf draft.resources k := Bundle.foldl_put_get _ _
  unfold namespaceOf lastNamespace
  rw [Kind.ofName?_name, Option.bind_some, Draft.toStage, hslot]
  cases lastOf draft.resources k <;> rfl

theorem rows_toStage (draft : Draft) (path : String) :
    rows (draft.toStage World stage path) = (partOf stage draft).rows := by
  have hentry (x : Resource × Nat) :
      entryRow (draft.toStage World stage path) ⟨x.1.kind.name, x.1.name⟩ x.2 = rowWith stage
        (fun r => cell r.name) (fun r => cell (lastNamespace draft.resources r.kind)) x := by
    unfold entryRow
    rw [namespaceOf_toStage]
    rfl
  have hentries : (draft.toStage World stage path).entries.zipIdx 1 =
      (draft.resources.zipIdx 1).map (Prod.map (fun r => ⟨r.kind.name, r.name⟩) id) := List.zipIdx_map
  unfold rows Part.rows partOf
  rw [hentries, List.map_map]
  exact congrArg₂ _ (List.map_congr_left fun x _ => hentry x) rfl

theorem size_toStage (draft : Draft) (path : String) :
    (draft.toStage World stage path).size = (partOf stage draft).numbered.length := by
  simp [Stage.size, Draft.toStage, partOf]

theorem partOf_shows [Yaml.Reader] (hfound : Files.discover files (.ofText d.2) = .ok found) {draft : Draft}
    (hadded : (Stage.addFiles stage (.ofText d.2) (Stage.decodeFile files) .empty found).result =
      .ok draft) :
    ShowsFiles files (.ofText d.2) stage found draft.resources (partOf stage draft) := by
  have hresources := Stage.addFiles_resources hadded
  have hskipped := Stage.addFiles_skipped hadded
  rw [Draft.empty, List.nil_append] at hresources hskipped
  have htextual : ∀ r ∈ draft.resources, r.metadata.Textual := by
    intro r hr
    rw [hresources] at hr
    obtain ⟨file, hfile, hr⟩ := List.mem_filterMap.mp hr
    exact ((Stage.declares_iff hfound).mpr ⟨hfile, hr⟩).textual
  have hrows : ∀ r ∈ draft.resources, Shown r.name (cell r.name) ∧
      ∃ last, lastOf draft.resources r.kind = some last ∧
        Shown last.metadata.namespaceName (cell (lastNamespace draft.resources r.kind)) := by
    intro r hr
    obtain ⟨last, hmem, hlast⟩ := exists_lastOf hr
    refine ⟨shown_cell (.inr (htextual r hr).name), last, hlast, ?_⟩
    rw [lastNamespace, hlast]
    exact shown_cell (htextual last hmem).namespaceName
  constructor
  case recognized => exact hresources
  case numbered => exact numbered_map_iff.mpr hrows
  case own => exact own_iff hrows
  case skipped =>
    rw [partOf, hskipped, List.map_map]
    rfl

/-- The stage of a directory has the rows and the size of a part that shows the directory. So has its stage
in other surroundings. -/
theorem exists_shows [Yaml.Reader] (World' : Type) {s : Stage World}
    (hs : Stage.built World files d = .ok s) :
    ∃ p, ShowsDirectory files d p ∧ rows s = p.rows ∧ s.size = p.numbered.length ∧
      ∃ s' : Stage World', Stage.built World' files d = .ok s' ∧ rows s' = p.rows ∧
        s'.size = p.numbered.length := by
  obtain ⟨found, draft, hfound, hadded, rfl⟩ := Stage.build_eq_ok.mp hs
  obtain ⟨-, -, -, hsorted⟩ := Files.discover_ok hfound
  refine ⟨partOf _ draft, ⟨found, draft.resources, hfound, hsorted, partOf_shows hfound hadded⟩,
    rows_toStage .., size_toStage .., ?_⟩
  exact ⟨_, Stage.build_eq_ok.mpr ⟨found, draft, hfound, hadded, rfl⟩, rows_toStage .., size_toStage ..⟩

/-! The whole plan. -/

/-- The stages have the rows and the sizes of the parts. -/
structure Fits (ss : List (Stage World)) (parts : List Part) : Prop where
  rows : ss.map Plan.rows = parts.map Part.rows
  sizes : ss.map Stage.size = parts.map fun p => p.numbered.length

theorem Fits.cons {ss : List (Stage World)} {parts : List Part} {s : Stage World} {p : Part}
    (hrows : Plan.rows s = p.rows) (hsize : s.size = p.numbered.length) (h : Fits ss parts) :
    Fits (s :: ss) (p :: parts) := by
  refine ⟨?_, ?_⟩
  · rw [List.map_cons, List.map_cons, hrows, h.rows]
  · rw [List.map_cons, List.map_cons, hsize, h.sizes]

theorem Fits.table {ss : List (Stage World)} {parts : List Part} (h : Fits ss parts) :
    (Plan.table ss).rows = parts.flatMap Part.rows := by
  rw [Plan.table, List.flatMap_def, h.rows, ← List.flatMap_def]

theorem Fits.summary {ss : List (Stage World)} {parts : List Part} (h : Fits ss parts) :
    Plan.summary ss = Markup.styled "dim" (toString parts.length ++ " stages, " ++
      toString (parts.flatMap Part.numbered).length ++ " readiness controls") := by
  have hlength : ss.length = parts.length := by simpa using congrArg List.length h.rows
  rw [Plan.summary, h.sizes, List.length_flatMap, List.sum_eq_foldl, hlength]

theorem exists_fits [Yaml.Reader] (World' : Type) {ss : List (Stage World)}
    (hss : Stage.AllBuilt files directories ss) :
    ∃ parts, List.Forall₂ (ShowsDirectory files) directories parts ∧ Fits ss parts ∧
      ∃ ss' : List (Stage World'), Stage.AllBuilt files directories ss' ∧ Fits ss' parts := by
  induction hss with
  | nil => exact ⟨[], .nil, ⟨rfl, rfl⟩, [], .nil, ⟨rfl, rfl⟩⟩
  | cons hs _ ih =>
    obtain ⟨p, hp, hrows, hsize, s', hs', hrows', hsize'⟩ := exists_shows World' hs
    obtain ⟨parts, hparts, hfits, ss', hss', hfits'⟩ := ih
    exact ⟨p :: parts, .cons hp hparts, hfits.cons hrows hsize, s' :: ss', .cons hs' hss',
      hfits'.cons hrows' hsize'⟩

/-- The plan of stages that are built from directories shows the directories, part by part. A command for
these directories prints it, and below it the number of its numbered rows. -/
theorem plan_shows [Yaml.Reader] {ss : List (Stage World)} (hss : Stage.AllBuilt files directories ss) :
    ∃ parts, List.Forall₂ (ShowsDirectory files) directories parts ∧
      (table ss).rows = parts.flatMap Part.rows ∧
      ∀ o c, CommandLine.configFor files o = .ok c → c.stageDirs = directories →
        (CommandLine.plan files o).printed = [.table (table ss), .text (Markup.styled "dim"
          (toString directories.length ++ " stages, " ++
            toString (parts.flatMap Part.numbered).length ++ " readiness controls"))] := by
  obtain ⟨parts, hparts, hfits, ss', hss', hfits'⟩ := exists_fits Files.Tree hss
  refine ⟨parts, hparts, hfits.table, ?_⟩
  rintro o c hc rfl
  have hload : (StageSource.ofDirectories id c.stageDirs files).result = .ok ss' :=
    StageSource.ofDirectories_eq_ok.mpr hss'
  have htable : table ss = table ss' := by
    rw [table, table, List.flatMap_def, hfits.rows, ← hfits'.rows, ← List.flatMap_def]
  rw [CommandLine.plan, hc, htable, hparts.length_eq, ← hfits'.summary]
  simp only [hload]

/-! A directory with two accounts in different namespaces. -/

def homedFile (name home : String) : Files.Entry :=
  .file ("apiVersion: v1\nkind: ServiceAccount\nmetadata:\n  name: " ++ name ++ "\n  namespace: " ++
    home).toUTF8.toList false

def homedFiles : Files.Tree :=
  ⟨.directory [("d", .directory [("a", homedFile "a" "x"), ("b", homedFile "b" "y")] .full)] .full, []⟩

/-- What is known of such an account. -/
structure Homed (name home : String) (r : Resource) : Prop where
  kind : r.kind = .serviceAccount
  name : r.name = .str name
  home : r.metadata.namespaceName = .str home

/-- Whether a file declares such an account. -/
def isHomed (name home : String) : Manifest.Decoded → Bool
  | .recognized _ r => r.kind == .serviceAccount && Readiness.isText name r.name &&
      Readiness.isText home r.metadata.namespaceName
  | .unrecognized _ => false

theorem exists_homed {decoded : Except Fault Manifest.Decoded} {name home : String}
    (hdecoded : decoded.toOption.any (isHomed name home) = true) :
    ∃ slot r, decoded = .ok (.recognized slot r) ∧ Homed name home r := by
  rcases decoded with f | ⟨slot, r⟩ | kind
  · simp [Except.toOption] at hdecoded
  · simp only [Except.toOption, Option.any_some, isHomed, Bool.and_eq_true, beq_iff_eq,
      Readiness.isText_iff] at hdecoded
    exact ⟨slot, r, rfl, hdecoded.1.1, hdecoded.1.2, hdecoded.2⟩
  · simp [Except.toOption, isHomed] at hdecoded

theorem first_homed : (Stage.decodeFile homedFiles (Files.filePath (.ofText "d") ["a"])).toOption.any
    (isHomed "a" "x") = true := by
  decide +kernel

theorem second_homed : (Stage.decodeFile homedFiles (Files.filePath (.ofText "d") ["b"])).toOption.any
    (isHomed "b" "y") = true := by
  decide +kernel

theorem homed_found : Files.discover homedFiles (.ofText "d") = .ok [["a"], ["b"]] := by
  have hfind : homedFiles.find (Files.Path.ofText "d").text =
      .ok (.directory [("a", homedFile "a" "x"), ("b", homedFile "b" "y")] .full) := rfl
  exact Files.discover_of_sorted hfind rfl (by decide)

theorem homed_built (World : Type) :
    ∃ a b, Homed "a" "x" a ∧ Homed "b" "y" b ∧
      [["a"], ["b"]].filterMap (Stage.recognized? (Stage.decodeFile homedFiles) (.ofText "d")) = [a, b] ∧
      Stage.built World homedFiles ("d", "d") = .ok ((Draft.mk [a, b] []).toStage World "d" "d") := by
  obtain ⟨_, a, ha, hisa⟩ := exists_homed first_homed
  obtain ⟨_, b, hb, hisb⟩ := exists_homed second_homed
  refine ⟨a, b, hisa, hisb, ?_, ?_⟩
  · rw [List.filterMap_cons_some (Stage.recognized?_eq_some.mpr ⟨_, ha⟩),
      List.filterMap_cons_some (Stage.recognized?_eq_some.mpr ⟨_, hb⟩), List.filterMap_nil]
  · have hadded : (Stage.addFiles "d" (.ofText "d") (Stage.decodeFile homedFiles) .empty
        [["a"], ["b"]]).result = .ok ⟨[a, b], []⟩ :=
      Stage.addFiles_cons_ok.mpr ⟨_, ha, Stage.addFiles_cons_ok.mpr ⟨_, hb, rfl⟩⟩
    exact Stage.build_eq_ok.mpr ⟨_, _, homed_found, hadded, rfl⟩

def homedOptions : CommandLine.Options :=
  { CommandLine.Options.start with assetsDir := some ".", stages := ["d"] }

theorem homed_shows :
    ∃ ss : List (Stage Files.Tree), Stage.AllBuilt homedFiles [("d", "d")] ss ∧
      ∃ parts, List.Forall₂ (ShowsDirectory homedFiles) [("d", "d")] parts ∧
        (table ss).rows = parts.flatMap Part.rows ∧
        (CommandLine.plan homedFiles homedOptions).printed = [.table (table ss),
          .text (Markup.styled "dim" (toString 1 ++ " stages, " ++
            toString (parts.flatMap Part.numbered).length ++ " readiness controls"))] := by
  obtain ⟨a, b, -, -, -, hbuilt⟩ := homed_built Files.Tree
  have hss : Stage.AllBuilt homedFiles [("d", "d")] [_] := .cons hbuilt .nil
  obtain ⟨parts, hparts, hrows, hplan⟩ := plan_shows hss
  exact ⟨_, hss, parts, hparts, hrows, hplan homedOptions _ rfl rfl⟩

/-- The part has a row for each manifest of a directory as it is declared. -/
def ShowsDeclared [Yaml.Reader] (files : Files.Tree) (d : String × String) (p : Part) : Prop :=
  ∃ found, Files.discover files (.ofText d.2) = .ok found ∧
    Numbered (Stage.nameFor (some d.1) (.ofText d.2)) some
      (found.filterMap (Stage.recognized? (Stage.decodeFile files) (.ofText d.2))) p.numbered

/-- The row of the first account has the namespace of the second. -/
theorem second_home_shown :
    ¬ ∀ files directories (ss : List (Stage Files.Tree)), Stage.AllBuilt files directories ss →
      ∃ parts, List.Forall₂ (ShowsDeclared files) directories parts ∧
        (table ss).rows = parts.flatMap Part.rows := by
  intro hshows
  obtain ⟨a, b, hisa, hisb, hrs, hbuilt⟩ := homed_built Files.Tree
  obtain ⟨parts, hparts, hrows⟩ := hshows _ _ _ (.cons hbuilt .nil)
  cases hparts with
  | @cons _ p _ rest hp hrest =>
    cases hrest
    obtain ⟨found, hfound, hnumbered⟩ := hp
    cases homed_found.symm.trans hfound
    rw [hrs] at hnumbered
    obtain ⟨numbered, skipped⟩ := p
    simp only at hnumbered
    cases hnumbered with
    | cons hrow htail =>
      obtain ⟨home, hhome, name, place, -, hplace, rfl⟩ := hrow
      cases hhome
      rw [hisa.home] at hplace
      obtain rfl : place = "x" := hplace.unique (.text (by decide))
      -- the printed row has the last namespace of the kind in the cell that should show "x"
      have hlast : lastNamespace [a, b] .serviceAccount = .str "y" := by
        simp [lastNamespace, lastOf, hisa.kind, hisb.kind, hisb.home]
      have hcell : cell (.str "y") = "y" := rfl
      rw [table, List.flatMap_cons, rows_toStage] at hrows
      simp [Part.rows, partOf, rowWith, hisa.kind, hlast, hcell] at hrows

end Plan
end StageGate
