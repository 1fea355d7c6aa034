import Mathlib.Data.List.Sort
import StageGate.Proofs.DirectoryTrees
import StageGate.Proofs.DiscoveredFiles
import StageGate.Proofs.PathTexts

/-!
What a discovery comes to. It fails where the path stands for no directory, or where a directory below
cannot be listed; otherwise it has each regular file once, in the strict order of the texts of their paths.
So it does not depend on the order in which the directories are listed.
-/

namespace StageGate.Files

namespace Entry
variable {e e' : Entry} {entries : List (String × Entry)} {access : Access} {name : String}
  {probe : Probe} {place p : RelativePath} {ps : List RelativePath} {f : DiscoveryFault}

theorem holds_iff_leads : e.Holds p ↔ p ≠ [] ∧ ∃ bytes unread, e.Leads p (.file bytes unread) := by
  constructor
  · intro hp
    refine ⟨hp.ne_nil, ?_⟩
    induction hp with
    | file he => exact ⟨_, _, .deeper he (.here _)⟩
    | deeper he _ ih =>
      obtain ⟨bytes, unread, hleads⟩ := ih
      exact ⟨bytes, unread, .deeper he hleads⟩
  · rintro ⟨hne, bytes, unread, hleads⟩
    generalize hfile : Entry.file bytes unread = d at hleads
    induction hleads with
    | here => exact absurd rfl hne
    | @deeper entries access name c ns d hc hd ih =>
      subst hfile
      cases ns with
      | nil =>
        cases hd
        exact .file hc
      | cons n ns => exact .deeper hc (ih (by simp) rfl)

/-- What a search does at the places of an entry that stands at `place`: all directories that can be
reached without following links are listed, and all other names are looked up. -/
structure Searched (probe : Probe) (place : RelativePath) (e : Entry) : Prop where
  listed {p : RelativePath} {inner : List (String × Entry)} {access : Access}
    (hd : e.Leads p (.directory inner access)) : probe.list (place ++ p) = .ok ()
  tested {p : RelativePath} {d : Entry} (hd : e.Leads p d) (hp : p ≠ [])
    (hother : ∀ inner access, d ≠ .directory inner access) : probe.test (place ++ p) = .ok ()

/-- The search fails at a place of an entry that stands at `place`. -/
inductive Stops (probe : Probe) (place : RelativePath) (e : Entry) (f : DiscoveryFault) : Prop where
  | unlistable {p : RelativePath} {inner : List (String × Entry)} {access : Access}
      (hd : e.Leads p (.directory inner access)) (hf : probe.list (place ++ p) = .error f)
  | unreached {p : RelativePath} {d : Entry} (hd : e.Leads p d) (hp : p ≠ [])
      (hother : ∀ inner access, d ≠ .directory inner access) (hf : probe.test (place ++ p) = .error f)

/-- A search that fails among the entries of a directory fails in the directory. -/
theorem Stops.deeper {c : Entry} (hstops : c.Stops probe (place ++ [name]) f) (hc : (name, c) ∈ entries) :
    (Entry.directory entries access).Stops probe place f := by
  cases hstops with
  | unlistable hd hf => exact .unlistable (.deeper hc hd) (by simpa using hf)
  | unreached hd hp hother hf => exact .unreached (.deeper hc hd) (by simp) hother (by simpa using hf)

theorem Holds.relisted (hp : e.Holds p) (he : e.Proper) (h : e.Relisted e') : e'.Holds p := by
  obtain ⟨hne, bytes, unread, hleads⟩ := holds_iff_leads.mp hp
  obtain ⟨d', hleads', hd'⟩ := hleads.relisted he h
  obtain rfl := hd'.eq_of_not_directory (by simp)
  exact holds_iff_leads.mpr ⟨hne, bytes, unread, hleads'⟩

/-! When a search succeeds. -/

theorem testEntries_eq_ok : testEntries probe place entries = .ok () ↔
    ∀ entry ∈ entries, (∀ inner access, entry.2 ≠ .directory inner access) →
      probe.test (place ++ [entry.1]) = .ok () := by
  induction entries with
  | nil => simp [testEntries]
  | cons entry rest ih =>
    obtain ⟨name, e⟩ := entry
    cases e with
    | directory inner access => simp [testEntries, ih]
    | file | link | special => simp [testEntries, bind_eq_ok, ih, Unique.exists_iff]

theorem exists_filesBelow_of_mem (hok : filesInDirectories probe place entries = .ok ps) {c : Entry}
    (hc : (name, c) ∈ entries) : ∃ qs, filesBelow probe (place ++ [name]) c = .ok qs := by
  induction entries generalizing ps with
  | nil => simp at hc
  | cons entry rest ih =>
    obtain ⟨first, later, hf, hl, -⟩ := filesInDirectories_cons.mp hok
    rcases List.mem_cons.mp hc with rfl | hc
    · exact ⟨first, hf⟩
    · exact ih hl hc

/-- A search that succeeds has listed and looked up all that it had to. -/
theorem searched_of_filesBelow (hok : filesBelow probe place e = .ok ps) : e.Searched probe place where
  listed {p inner access} hd := by
    generalize hdirectory : Entry.directory inner access = d at hd
    induction hd generalizing place ps with
    | here e =>
      subst hdirectory
      simpa using (filesBelow_directory.mp hok).1
    | deeper hc _ ih =>
      obtain ⟨-, -, deeper, hdeeper, -⟩ := filesBelow_directory.mp hok
      obtain ⟨qs, hqs⟩ := exists_filesBelow_of_mem hdeeper hc
      simpa using ih hqs hdirectory
  tested {p d} hd hp hother := by
    induction hd generalizing place ps with
    | here => exact absurd rfl hp
    | @deeper entries access name c ns d hc hd ih =>
      obtain ⟨-, htest, deeper, hdeeper, -⟩ := filesBelow_directory.mp hok
      cases ns with
      | nil =>
        cases hd
        exact testEntries_eq_ok.mp htest _ hc hother
      | cons n ns =>
        obtain ⟨qs, hqs⟩ := exists_filesBelow_of_mem hdeeper hc
        simpa using ih hqs (by simp) hother

/-! Where a search fails. -/

theorem testEntries_eq_error (hf : testEntries probe place entries = .error f) :
    ∃ name e, (name, e) ∈ entries ∧ (∀ inner access, e ≠ .directory inner access) ∧
      probe.test (place ++ [name]) = .error f := by
  induction entries with
  | nil => cases hf
  | cons entry rest ih =>
    obtain ⟨name, e⟩ := entry
    have hlater (hf : testEntries probe place rest = .error f) :
        ∃ n c, (n, c) ∈ (name, e) :: rest ∧ (∀ inner access, c ≠ .directory inner access) ∧
          probe.test (place ++ [n]) = .error f := by
      obtain ⟨n, c, hc, hother, hf⟩ := ih hf
      exact ⟨n, c, List.mem_cons_of_mem _ hc, hother, hf⟩
    cases e with
    | directory => exact hlater hf
    | file | link | special =>
      rcases bind_eq_error.mp hf with hfirst | ⟨_, -, hf⟩
      · exact ⟨name, _, List.mem_cons_self, by simp, hfirst⟩
      · exact hlater hf

mutual

/-- A search that fails has come to a place where it fails. -/
theorem filesBelow_eq_error (place : RelativePath) (e : Entry)
    (hf : filesBelow probe place e = .error f) : e.Stops probe place f := by
  match e with
  | .directory entries access =>
    rcases bind_eq_error.mp hf with hlist | ⟨_, -, hf⟩
    · exact .unlistable (.here _) (by simpa using hlist)
    rcases bind_eq_error.mp hf with htest | ⟨_, -, hf⟩
    · obtain ⟨name, c, hc, hother, htest⟩ := testEntries_eq_error htest
      exact .unreached (.deeper hc (.here _)) (by simp) hother htest
    rcases bind_eq_error.mp hf with hdeeper | ⟨_, -, hf⟩
    · obtain ⟨name, c, hc, hstops⟩ := filesInDirectories_eq_error place entries hdeeper
      exact hstops.deeper hc
    · cases hf
  | .file bytes unread => cases hf
  | .link target => cases hf
  | .special => cases hf

theorem filesInDirectories_eq_error (place : RelativePath) (entries : List (String × Entry))
    (hf : filesInDirectories probe place entries = .error f) :
    ∃ name c, (name, c) ∈ entries ∧ c.Stops probe (place ++ [name]) f := by
  match entries with
  | [] => cases hf
  | (name, c) :: rest =>
    rcases bind_eq_error.mp hf with hfirst | ⟨_, -, hf⟩
    · exact ⟨name, c, List.mem_cons_self, filesBelow_eq_error (place ++ [name]) c hfirst⟩
    rcases bind_eq_error.mp hf with hlater | ⟨_, -, hf⟩
    · obtain ⟨n, c', hc, hstops⟩ := filesInDirectories_eq_error place rest hlater
      exact ⟨n, c', List.mem_cons_of_mem _ hc, hstops⟩
    · cases hf

end

/-! No file is found twice. -/

theorem fileNames_sublist (entries : List (String × Entry)) :
    (fileNames entries).Sublist (entries.map Prod.fst) := by
  induction entries with
  | nil => exact .slnil
  | cons entry rest ih =>
    obtain ⟨n, e⟩ := entry
    cases e with
    | file => exact ih.cons_cons n
    | directory | link | special => exact ih.cons n

mutual

theorem filesBelow_nodup (place : RelativePath) (e : Entry) (ps : List RelativePath) (he : e.Proper)
    (hok : filesBelow probe place e = .ok ps) : ps.Nodup := by
  match e with
  | .directory entries access =>
    obtain ⟨-, -, deeper, hd, rfl⟩ := filesBelow_directory.mp hok
    cases he with
    | directory hdistinct _ hproper =>
      have hnames : (fileNames entries).Nodup := hdistinct.sublist (fileNames_sublist entries)
      have hhere : ((fileNames entries).map fun n => place ++ [n]).Nodup :=
        hnames.map fun m n hmn => by simpa using hmn
      refine List.nodup_append.mpr ⟨hhere, ?_, ?_⟩
      · exact filesInDirectories_nodup place entries deeper hdistinct hproper hd
      · -- A file of the directory itself has one name below its place, any other has more.
        rintro q hq _ hq' rfl
        obtain ⟨n, -, rfl⟩ := List.mem_map.mp hq
        obtain ⟨n', e', p, -, hp, heq⟩ := (mem_filesInDirectories probe place entries deeper hd _).mp hq'
        have hsame : [n] = n' :: p := List.append_cancel_left heq
        exact hp.ne_nil (List.cons.inj hsame).2.symm
  | .file bytes unread =>
    cases hok
    exact List.nodup_nil
  | .link target =>
    cases hok
    exact List.nodup_nil
  | .special =>
    cases hok
    exact List.nodup_nil

theorem filesInDirectories_nodup (place : RelativePath) (entries : List (String × Entry))
    (ps : List RelativePath) (hdistinct : (entries.map Prod.fst).Nodup)
    (hproper : ∀ entry ∈ entries, entry.2.Proper)
    (hok : filesInDirectories probe place entries = .ok ps) : ps.Nodup := by
  match entries with
  | [] =>
    cases hok
    exact List.nodup_nil
  | (name, e) :: rest =>
    obtain ⟨first, later, hf, hl, rfl⟩ := filesInDirectories_cons.mp hok
    obtain ⟨hname, hdistinct_rest⟩ := List.nodup_cons.mp hdistinct
    obtain ⟨he, hproper_rest⟩ := List.forall_mem_cons.mp hproper
    refine List.nodup_append.mpr ⟨filesBelow_nodup (place ++ [name]) e first he hf, ?_, ?_⟩
    · exact filesInDirectories_nodup place rest later hdistinct_rest hproper_rest hl
    · -- What is found in a later directory has that directory's name below the place.
      rintro q hq _ hq' rfl
      obtain ⟨p, -, rfl⟩ := (mem_filesBelow probe (place ++ [name]) e first hf _).mp hq
      obtain ⟨n, e', p', hn, -, heq⟩ := (mem_filesInDirectories probe place rest later hl _).mp hq'
      rw [List.append_assoc] at heq
      have hsame : name :: p = n :: p' := List.append_cancel_left heq
      exact hname (List.mem_map.mpr ⟨(n, e'), hn, (List.cons.inj hsame).1.symm⟩)

end
end Entry

/-- The path stands for the directory. -/
structure Tree.DirectoryAt (tree : Tree) (path : String) (e : Entry) : Prop where
  found : tree.find path = .ok e
  directory : ∃ entries access, e = .directory entries access

/-- Below the path of a directory, all directories that can be reached without following links can be
listed, and what all other names stand for can be looked up. -/
structure Tree.Searchable (tree : Tree) (directory : Path) (e : Entry) : Prop where
  listed {p entries access} (hd : e.Leads p (.directory entries access)) :
    ∃ found, tree.list (listingPath directory p) = .ok found
  tested {p d} (hd : e.Leads p d) (hp : p ≠ []) (hother : ∀ entries access, d ≠ .directory entries access) :
    ∃ found, tree.test (filePath directory p) = .ok found

/-- The ways in which a discovery below a directory can fail. -/
inductive Tree.Unsearchable (tree : Tree) (directory : Path) (e : Entry) : DiscoveryFault → Prop where
  | unlistable {p entries access why} (hd : e.Leads p (.directory entries access))
      (hwhy : tree.list (listingPath directory p) = .error why) :
      Unsearchable tree directory e (.unlistable why)
  | unreached {p d why} (hd : e.Leads p d) (hp : p ≠ [])
      (hother : ∀ entries access, d ≠ .directory entries access)
      (hwhy : tree.test (filePath directory p) = .error why) :
      Unsearchable tree directory e (.unreached why)

/-- The ways in which a discovery can end. -/
inductive Discovery (tree : Tree) (directory : Path) :
    Except DiscoveryFault (List RelativePath) → Prop where
  | noDirectory (hnone : ∀ e, ¬ tree.DirectoryAt directory.text e) :
      Discovery tree directory (.error .noDirectory)
  | astray {why} (hwhy : tree.test directory.text = .error why) :
      Discovery tree directory (.error (.unreached why))
  | stopped {e f} (hat : tree.DirectoryAt directory.text e) (hf : tree.Unsearchable directory e f) :
      Discovery tree directory (.error f)
  | complete {e ps} (hat : tree.DirectoryAt directory.text e) (hsearch : tree.Searchable directory e)
      (hmem : ∀ p, p ∈ ps ↔ e.Holds p) (hsorted : ps.Pairwise fun p q => p.text ≤ q.text)
      (honce : e.Proper → ps.Nodup) : Discovery tree directory (.ok ps)

section
variable {tree tree' : Tree} {directory : Path} {path : String} {e : Entry} {ps : List RelativePath}
  {p : RelativePath} {f : DiscoveryFault}

theorem Tree.searchable_of_searched (h : e.Searched (tree.probe directory) []) :
    tree.Searchable directory e where
  listed hd := by simpa [probe, mapError_eq_ok, map_eq_ok] using h.listed hd
  tested hd hp hother := by simpa [probe, mapError_eq_ok, map_eq_ok] using h.tested hd hp hother

theorem Tree.unsearchable_of_stops (h : e.Stops (tree.probe directory) [] f) :
    tree.Unsearchable directory e f := by
  cases h with
  | @unlistable p _ _ hd hf =>
    cases hwhy : tree.list (listingPath directory p) with
    | ok found => simp [probe, hwhy, Except.map] at hf
    | error why =>
      obtain rfl : DiscoveryFault.unlistable why = f := by simpa [probe, hwhy, Except.map] using hf
      exact .unlistable hd hwhy
  | @unreached p _ hd hp hother hf =>
    cases hwhy : tree.test (filePath directory p) with
    | ok found => simp [probe, hwhy, Except.map] at hf
    | error why =>
      obtain rfl : DiscoveryFault.unreached why = f := by simpa [probe, hwhy, Except.map] using hf
      exact .unreached hd hp hother hwhy

theorem Tree.Relisted.list_ok (h : tree.Relisted tree') (hproper : tree.root.Proper)
    (hok : ∃ found, tree.list path = .ok found) : ∃ found, tree'.list path = .ok found := by
  have hsame := h.find hproper path
  unfold list at hok ⊢
  generalize tree.find path = found at hsame hok
  generalize tree'.find path = found' at hsame
  cases hsame with
  | failure f => simp at hok
  | @entry e e' he =>
    cases e with
    | directory entries access =>
      obtain ⟨others, rfl⟩ := he.directory
      cases hlist : access.list with
      | false => simp [hlist] at hok
      | true => exact ⟨others, by simp [hlist]⟩
    | file | link | special => simp at hok

theorem Tree.Relisted.test_ok (h : tree.Relisted tree') (hproper : tree.root.Proper)
    (hok : ∃ found, tree.test path = .ok found) : ∃ found, tree'.test path = .ok found := by
  have hsame := h.find hproper path
  unfold test at hok ⊢
  generalize tree.find path = found at hsame hok
  generalize tree'.find path = found' at hsame
  cases hsame with
  | failure f => exact hok
  | entry => exact ⟨_, rfl⟩

theorem Tree.Searchable.relisted {e' : Entry} (hsearch : tree.Searchable directory e)
    (h : tree.Relisted tree') (hproper : tree.root.Proper) (hrelisted : e.Relisted e') (he : e.Proper) :
    tree'.Searchable directory e' where
  listed hd := by
    obtain ⟨d, hleads, hd⟩ := hd.relisted (hrelisted.proper he) hrelisted.symm
    obtain ⟨others, rfl⟩ := hd.directory
    exact h.list_ok hproper (hsearch.listed hleads)
  tested hd hp hother := by
    obtain ⟨d, hleads, hd⟩ := hd.relisted (hrelisted.proper he) hrelisted.symm
    obtain rfl := hd.eq_of_not_directory hother
    exact h.test_ok hproper (hsearch.tested hleads hp hother)

theorem Tree.DirectoryAt.unique {e' : Entry} (hat : tree.DirectoryAt path e)
    (hat' : tree.DirectoryAt path e') : e' = e :=
  Except.ok.inj (hat'.found.symm.trans hat.found)

theorem discover_ends (tree : Tree) (directory : Path) :
    Discovery tree directory (discover tree directory) := by
  unfold discover
  split
  · rename_i why hwhy
    exact .astray hwhy
  · rename_i entries access hfound
    have hat : tree.DirectoryAt directory.text (.directory entries access) :=
      ⟨Tree.test_eq_some.mp hfound, _, _, rfl⟩
    cases hfiles : Entry.filesBelow (tree.probe directory) [] (.directory entries access) with
    | ok files =>
      have hsearch := Tree.searchable_of_searched (Entry.searched_of_filesBelow hfiles)
      refine .complete hat hsearch ?_ (sortPaths_sorted files) ?_
      · intro p
        rw [mem_sortPaths, Entry.mem_filesBelow _ [] _ files hfiles p]
        simp
      · intro hproper
        exact (List.mergeSort_perm files _).nodup_iff.mpr
          (Entry.filesBelow_nodup [] _ files hproper hfiles)
    | error f => exact .stopped hat (Tree.unsearchable_of_stops (Entry.filesBelow_eq_error [] _ hfiles))
  · rename_i found hnone htest
    refine .noDirectory ?_
    rintro e ⟨hfound, entries, access, rfl⟩
    exact hnone entries access (Except.ok.inj (htest.symm.trans (Tree.test_eq_some.mpr hfound)))

theorem Tree.DirectoryAt.test (hat : tree.DirectoryAt path e) : tree.test path = .ok (some e) :=
  Tree.test_eq_some.mpr hat.found

/-- A link beside a file. -/
def linkEntries (target : String) : List (String × Entry) :=
  [("a.yaml", .file [] false), ("l", .link target)]

def linkTree (target : String) : Tree :=
  ⟨.directory [("d", .directory (linkEntries target) .full)] .full, []⟩

/-- A link to a name that is too long cannot be looked up. -/
theorem linkTree_find {target : String} (hslash : '/' ∉ target.toList)
    (hlong : Tree.nameLimit < target.utf8ByteSize) : (linkTree target).find "d/l" = .error .nameTooLong := by
  have hempty : target ≠ "" := by
    rintro rfl
    exact absurd hlong (by decide)
  have hdots : target ≠ "." ∧ target ≠ ".." := by
    constructor <;> (rintro rfl; exact absurd hlong (by decide))
  have hanchor : Path.anchorOf target = .relative := Path.anchorOf_of_slash_not_mem hslash
  have hnames : ¬ Tree.nameLimit < "d".utf8ByteSize ∧ ¬ Tree.nameLimit < "l".utf8ByteSize := by decide
  have hfollow (fuel : Nat) :
      Tree.follow (linkTree target).root (fuel + 3) Tree.linkLimit [] ["d", "l"] = .error .nameTooLong := by
    simp [Tree.follow, Tree.move, linkTree, linkEntries, Entry.descend?, Entry.child?, Access.full,
      List.lookup_cons, Tree.linkLimit, hempty, hdots, hanchor, hnames,
      Path.stepsOf_name hempty hslash, hlong]
  have hpath : Path.ofText "d/l" = ⟨.relative, ["d", "l"]⟩ := rfl
  have hsize : ¬ "d/l".utf8ByteSize > Tree.pathLimit := by decide
  obtain ⟨fuel, hfuel⟩ : ∃ fuel, ["d", "l"].length +
      (Tree.linkLimit + 1) * ((linkTree target).root.linkSize + 1) + 2 = fuel + 3 :=
    ⟨1 + (Tree.linkLimit + 1) * ((linkTree target).root.linkSize + 1), by simp; omega⟩
  simp only [Tree.find, hpath, hfuel, if_neg hsize]
  have hbase : (linkTree target).base .relative = [] := rfl
  rw [hbase, List.reverse_nil, hfollow]
  rfl

/-- A discovery fails with a link to a name that is too long. -/
theorem discover_linkTree {target : String} (hslash : '/' ∉ target.toList)
    (hlong : Tree.nameLimit < target.utf8ByteSize) :
    (linkTree target).DirectoryAt "d" (.directory (linkEntries target) .full) ∧
      discover (linkTree target) (.ofText "d") = .error (.unreached ⟨.nameTooLong, "d/l"⟩) := by
  have hfound : (linkTree target).find "d" = .ok (.directory (linkEntries target) .full) := rfl
  have htest : (linkTree target).test (Path.ofText "d").text =
      .ok (some (.directory (linkEntries target) .full)) := rfl
  have hlist : ((linkTree target).probe (.ofText "d")).list [] = .ok () := rfl
  have hfile : ((linkTree target).probe (.ofText "d")).test ["a.yaml"] = .ok () := rfl
  have hlink : ((linkTree target).probe (.ofText "d")).test ["l"] =
      .error (.unreached ⟨.nameTooLong, "d/l"⟩) := by
    have hpath : filePath (.ofText "d") ["l"] = "d/l" := by decide
    simp [Tree.probe, hpath, Tree.test, linkTree_find hslash hlong, Failure.isNo, Except.map]
  refine ⟨⟨hfound, _, _, rfl⟩, ?_⟩
  simp [discover, htest, linkEntries, Entry.filesBelow, Entry.testEntries, hlist, hfile, hlink, bind,
    Except.bind, Except.map]

/-- There are names that are too long, such as one of 300 characters. -/
theorem exists_longName : ∃ name : String, '/' ∉ name.toList ∧ Tree.nameLimit < name.utf8ByteSize := by
  refine ⟨String.ofList (List.replicate 300 'x'), ?_, by decide +kernel⟩
  rw [String.toList_ofList]
  exact fun h => absurd (List.eq_of_mem_replicate h) (by decide)

end
end StageGate.Files
