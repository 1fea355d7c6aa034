import StageGate.Files.Discovery
import StageGate.Results

/-!
Discovered files: a discovery finds exactly the regular files that its directory holds, in the order of
the texts of their paths.
-/

namespace StageGate.Files

/-- The entry holds a regular file at a path that leads through directories alone. -/
inductive Entry.Holds : Entry → RelativePath → Prop where
  | file {name bytes unread entries access} (he : (name, .file bytes unread) ∈ entries) :
      Holds (.directory entries access) [name]
  | deeper {name e p entries access} (he : (name, e) ∈ entries) (hp : Holds e p) :
      Holds (.directory entries access) (name :: p)

namespace Entry
variable {probe : Probe} {place : RelativePath} {entries : List (String × Entry)} {access : Access}
  {ps : List RelativePath}

theorem Holds.ne_nil {e : Entry} {p : RelativePath} (hp : e.Holds p) : p ≠ [] := by
  cases hp <;> simp

theorem mem_fileNames {entries : List (String × Entry)} {name : String} :
    name ∈ fileNames entries ↔ ∃ bytes unread, (name, .file bytes unread) ∈ entries := by
  induction entries with
  | nil => simp [fileNames]
  | cons entry rest ih =>
    obtain ⟨n, e⟩ := entry
    cases e with
    | file bytes unread =>
      simp only [fileNames, List.mem_cons, ih, Prod.mk.injEq, file.injEq]
      constructor
      · rintro (rfl | ⟨bytes', unread', hmem⟩)
        · exact ⟨bytes, unread, .inl ⟨rfl, rfl, rfl⟩⟩
        · exact ⟨bytes', unread', .inr hmem⟩
      · rintro ⟨bytes', unread', ⟨rfl, _⟩ | hmem⟩
        · exact .inl rfl
        · exact .inr ⟨bytes', unread', hmem⟩
    | directory | link | special => simp [fileNames, ih]

theorem filesBelow_directory : filesBelow probe place (.directory entries access) = .ok ps ↔
    probe.list place = .ok () ∧ testEntries probe place entries = .ok () ∧
      ∃ deeper, filesInDirectories probe place entries = .ok deeper ∧
        ps = (fileNames entries).map (fun n => place ++ [n]) ++ deeper := by
  rw [filesBelow, bind_eq_ok]
  constructor
  · rintro ⟨_, hlist, hrest⟩
    obtain ⟨_, htest, hrest⟩ := bind_eq_ok.mp hrest
    obtain ⟨deeper, hdeeper, hrest⟩ := bind_eq_ok.mp hrest
    cases hrest
    exact ⟨hlist, htest, deeper, hdeeper, rfl⟩
  · rintro ⟨hlist, htest, deeper, hdeeper, rfl⟩
    refine ⟨(), hlist, ?_⟩
    simp only [htest, hdeeper, bind, Except.bind]
    rfl

theorem filesInDirectories_cons {name : String} {e : Entry} {rest : List (String × Entry)} :
    filesInDirectories probe place ((name, e) :: rest) = .ok ps ↔
      ∃ first later, filesBelow probe (place ++ [name]) e = .ok first ∧
        filesInDirectories probe place rest = .ok later ∧ ps = first ++ later := by
  rw [filesInDirectories, bind_eq_ok]
  constructor
  · rintro ⟨first, hfirst, hrest⟩
    obtain ⟨later, hlater, hrest⟩ := bind_eq_ok.mp hrest
    cases hrest
    exact ⟨first, later, hfirst, hlater, rfl⟩
  · rintro ⟨first, later, hfirst, hlater, rfl⟩
    refine ⟨first, hfirst, ?_⟩
    simp only [hlater, bind, Except.bind]
    rfl

theorem not_holds {e : Entry} (he : ∀ entries access, e ≠ .directory entries access)
    (p : RelativePath) : ¬ e.Holds p := by
  intro hp
  cases hp <;> exact he _ _ rfl

mutual

/-- The files found below an entry are those that it holds, seen from the place of the entry. -/
theorem mem_filesBelow (probe : Probe) (place : RelativePath) (e : Entry) (ps : List RelativePath)
    (hok : filesBelow probe place e = .ok ps) (q : RelativePath) :
    q ∈ ps ↔ ∃ p, e.Holds p ∧ q = place ++ p := by
  match e with
  | .directory entries access =>
    obtain ⟨-, -, deeper, hd, rfl⟩ := filesBelow_directory.mp hok
    rw [List.mem_append, List.mem_map, mem_filesInDirectories probe place entries deeper hd q]
    constructor
    · rintro (⟨n, hn, rfl⟩ | ⟨n, e, p, he, hp, rfl⟩)
      · obtain ⟨bytes, unread, he⟩ := mem_fileNames.mp hn
        exact ⟨[n], .file he, rfl⟩
      · exact ⟨n :: p, .deeper he hp, rfl⟩
    · rintro ⟨p, hp, rfl⟩
      cases hp with
      | @file n bytes unread _ _ he => exact .inl ⟨n, mem_fileNames.mpr ⟨bytes, unread, he⟩, rfl⟩
      | deeper he hp => exact .inr ⟨_, _, _, he, hp, rfl⟩
  | .file bytes unread =>
    cases hok
    simpa using fun p hp => absurd hp (not_holds (by simp) p)
  | .link target =>
    cases hok
    simpa using fun p hp => absurd hp (not_holds (by simp) p)
  | .special =>
    cases hok
    simpa using fun p hp => absurd hp (not_holds (by simp) p)

theorem mem_filesInDirectories (probe : Probe) (place : RelativePath) (entries : List (String × Entry))
    (ps : List RelativePath) (hok : filesInDirectories probe place entries = .ok ps) (q : RelativePath) :
    q ∈ ps ↔ ∃ n e p, (n, e) ∈ entries ∧ e.Holds p ∧ q = place ++ n :: p := by
  match entries with
  | [] =>
    cases hok
    simp
  | (name, e) :: rest =>
    obtain ⟨first, later, hf, hl, rfl⟩ := filesInDirectories_cons.mp hok
    rw [List.mem_append, mem_filesBelow probe (place ++ [name]) e first hf q,
      mem_filesInDirectories probe place rest later hl q]
    constructor
    · rintro (⟨p, hp, rfl⟩ | ⟨n, e', p, he, hp, rfl⟩)
      · exact ⟨name, e, p, List.mem_cons_self, hp, by simp⟩
      · exact ⟨n, e', p, List.mem_cons_of_mem _ he, hp, rfl⟩
    · rintro ⟨n, e', p, he, hp, rfl⟩
      rcases List.mem_cons.mp he with heq | he
      · cases heq
        exact .inl ⟨p, hp, by simp⟩
      · exact .inr ⟨n, e', p, he, hp, rfl⟩

end
end Entry

theorem RelativePath.le_iff {p q : RelativePath} : p.le q = true ↔ p.text ≤ q.text := by
  simp [RelativePath.le]

theorem sortPaths_sorted (ps : List RelativePath) :
    (sortPaths ps).Pairwise fun p q => p.text ≤ q.text := by
  have htrans (p q r : RelativePath) (hpq : p.le q = true) (hqr : q.le r = true) :
      p.le r = true := by
    rw [RelativePath.le_iff] at hpq hqr ⊢
    exact String.le_trans hpq hqr
  have htotal (p q : RelativePath) : (p.le q || q.le p) = true := by
    rw [Bool.or_eq_true, RelativePath.le_iff, RelativePath.le_iff]
    exact String.le_total p.text q.text
  exact (List.pairwise_mergeSort htrans htotal ps).imp RelativePath.le_iff.mp

theorem mem_sortPaths {ps : List RelativePath} {p : RelativePath} : p ∈ sortPaths ps ↔ p ∈ ps :=
  List.mem_mergeSort

theorem sortPaths_of_sorted {ps : List RelativePath} (hs : ps.Pairwise fun p q => p.text ≤ q.text) :
    sortPaths ps = ps :=
  List.mergeSort_of_pairwise (hs.imp RelativePath.le_iff.mpr)

theorem Tree.test_eq_some {tree : Tree} {path : String} {e : Entry} :
    tree.test path = .ok (some e) ↔ tree.find path = .ok e := by
  unfold test
  cases tree.find path with
  | error f => cases hno : f.isNo <;> simp [hno]
  | ok e => simp

/-- A discovery succeeds where the path stands for a directory that can be searched. -/
theorem discover_eq_ok {tree : Tree} {directory : Path} {ps : List RelativePath} :
    discover tree directory = .ok ps ↔ ∃ entries access files,
      tree.find directory.text = .ok (.directory entries access) ∧
        Entry.filesBelow (tree.probe directory) [] (.directory entries access) = .ok files ∧
          sortPaths files = ps := by
  unfold discover
  constructor
  · intro hok
    split at hok
    · cases hok
    · rename_i entries access hfind
      obtain ⟨files, hfiles, hsorted⟩ := map_eq_ok.mp hok
      exact ⟨entries, access, files, Tree.test_eq_some.mp hfind, hfiles, hsorted⟩
    · cases hok
  · rintro ⟨entries, access, files, hfind, hfiles, hsorted⟩
    rw [Tree.test_eq_some.mpr hfind]
    exact map_eq_ok.mpr ⟨files, hfiles, hsorted⟩

/-- A discovery that succeeds has the files of its directory, all of them and in order. -/
theorem discover_ok {tree : Tree} {directory : Path} {ps : List RelativePath}
    (hok : discover tree directory = .ok ps) :
    ∃ e, tree.find directory.text = .ok e ∧ (∀ p, p ∈ ps ↔ e.Holds p) ∧
      ps.Pairwise fun p q => p.text ≤ q.text := by
  obtain ⟨entries, access, files, hfind, hfiles, rfl⟩ := discover_eq_ok.mp hok
  refine ⟨_, hfind, fun p => ?_, sortPaths_sorted files⟩
  rw [mem_sortPaths, Entry.mem_filesBelow _ [] _ files hfiles p]
  simp

theorem discover_of_sorted {tree : Tree} {directory : Path} {entries : List (String × Entry)}
    {access : Access} {ps : List RelativePath}
    (hfind : tree.find directory.text = .ok (.directory entries access))
    (hfiles : Entry.filesBelow (tree.probe directory) [] (.directory entries access) = .ok ps)
    (hsorted : ps.Pairwise fun p q => p.text ≤ q.text) :
    discover tree directory = .ok ps :=
  discover_eq_ok.mpr ⟨entries, access, ps, hfind, hfiles, sortPaths_of_sorted hsorted⟩

end StageGate.Files
