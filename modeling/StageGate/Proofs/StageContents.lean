import Mathlib.Data.List.Induction
import StageGate.Proofs.ConvergenceSoundness
import StageGate.Proofs.DecodedResources

/-!
What a built stage and its log hold, list by list, of the files of its directory. Each file is recognized
or of an unsupported kind. Entries and controls go with the recognized files one by one, skipped names and
their records with the others, and every file of a kind but the first replaces an earlier one.
-/

namespace StageGate
open Files (RelativePath filePath)

theorem Bundle.foldl_put_get (rs : List Resource) (k : Kind) :
    (rs.foldl put .empty).get k = (rs.filter fun r => r.kind = k).getLast? := by
  induction rs using List.reverseRecOn with
  | nil => rfl
  | append_singleton rs r ih =>
    rw [List.foldl_append, List.foldl_cons, List.foldl_nil, List.filter_append]
    by_cases hk : r.kind = k
    · subst hk
      simp [get_put_same]
    · rw [get_put_other _ r (Ne.symm hk), ih]
      simp [hk]

namespace Event

def isSkip : Event → Bool
  | .skipped .. => true
  | _ => false

/-- Whether the event says that a resource of the kind is replaced. -/
def replaces (k : Kind) : Event → Bool
  | .replaced _ kind _ => kind = k
  | _ => false

theorem level_of_isSkip {e : Event} (he : e.isSkip = true) : e.level = .info := by
  cases e <;> first | rfl | cases he

theorem level_of_replaces {e : Event} {k : Kind} (he : e.replaces k = true) : e.level = .warning := by
  cases e <;> first | rfl | cases he

end Event

namespace Stage
variable {World : Type} {files : Files.Tree} {root : Files.Path} {stage : String}
  {decode : String → Except Fault Manifest.Decoded} {file : RelativePath} {found : List RelativePath}
  {d d' : Draft} {k : Kind} {kind slot : String} {r : Resource}

/-- The unsupported kind that a file of a directory declares. -/
def unsupported? (decode : String → Except Fault Manifest.Decoded) (root : Files.Path)
    (file : RelativePath) : Option String :=
  match decode (filePath root file) with
  | .ok (.unrecognized kind) => some kind
  | _ => none

/-- The files that are recognized as resources of the kind. -/
def filesOfKind (decode : String → Except Fault Manifest.Decoded) (root : Files.Path)
    (found : List RelativePath) (k : Kind) : List RelativePath :=
  found.filter fun file => (recognized? decode root file).any fun r => r.kind = k

/-- The files of unsupported kinds. -/
def filesSkipped (decode : String → Except Fault Manifest.Decoded) (root : Files.Path)
    (found : List RelativePath) : List RelativePath :=
  found.filter fun file => (unsupported? decode root file).isSome

theorem filesSkipped_cons_recognized (hd : decode (filePath root file) = .ok (.recognized slot r)) :
    filesSkipped decode root (file :: found) = filesSkipped decode root found := by
  simp [filesSkipped, unsupported?, hd]

theorem filesSkipped_cons_unrecognized (hd : decode (filePath root file) = .ok (.unrecognized kind)) :
    filesSkipped decode root (file :: found) = file :: filesSkipped decode root found := by
  simp [filesSkipped, unsupported?, hd]

theorem filesOfKind_cons_same (hd : decode (filePath root file) = .ok (.recognized slot r)) :
    filesOfKind decode root (file :: found) r.kind = file :: filesOfKind decode root found r.kind := by
  simp [filesOfKind, recognized?, hd]

theorem filesOfKind_cons_other (hd : decode (filePath root file) = .ok (.recognized slot r))
    (hk : r.kind ≠ k) :
    filesOfKind decode root (file :: found) k = filesOfKind decode root found k := by
  simp [filesOfKind, recognized?, hd, hk]

theorem filesOfKind_cons_unrecognized (hd : decode (filePath root file) = .ok (.unrecognized kind)) :
    filesOfKind decode root (file :: found) k = filesOfKind decode root found k := by
  simp [filesOfKind, recognized?, hd]

theorem addFiles_cons_events {decoded : Manifest.Decoded}
    (hd : decode (filePath root file) = .ok decoded) :
    (addFiles stage root decode d (file :: found)).events =
      decoded.events (some (filePath root file)) ++ d.addEvents stage decoded file.text ++
        (addFiles stage root decode (d.add decoded file.text) found).events := by
  simp [addFiles, hd]

theorem addFiles_decoded (hok : (addFiles stage root decode d found).result = .ok d') :
    ∀ file ∈ found, ∃ decoded, decode (filePath root file) = .ok decoded := by
  induction found generalizing d with
  | nil => simp
  | cons file rest ih =>
    obtain ⟨decoded, hd, hrest⟩ := addFiles_cons_ok.mp hok
    exact List.forall_mem_cons.mpr ⟨⟨decoded, hd⟩, ih hrest⟩

theorem addFiles_skipped (hok : (addFiles stage root decode d found).result = .ok d') :
    d'.skipped = d.skipped ++ (filesSkipped decode root found).map RelativePath.text := by
  induction found generalizing d with
  | nil =>
    cases hok
    simp [filesSkipped]
  | cons file rest ih =>
    obtain ⟨decoded, hd, hrest⟩ := addFiles_cons_ok.mp hok
    rw [ih hrest]
    cases decoded with
    | recognized slot r => rw [filesSkipped_cons_recognized hd, Draft.add]
    | unrecognized kind => simp [Draft.add, filesSkipped_cons_unrecognized hd]

/-- The record of a file of an unsupported kind. -/
def skipRecord? (decode : String → Except Fault Manifest.Decoded) (root : Files.Path)
    (file : RelativePath) : Option Event :=
  (unsupported? decode root file).map fun kind => .skipped kind file.text

theorem addFiles_skipRecords (hok : (addFiles stage root decode d found).result = .ok d') :
    (addFiles stage root decode d found).events.filter Event.isSkip =
      found.filterMap (skipRecord? decode root) := by
  induction found generalizing d with
  | nil => rfl
  | cons file rest ih =>
    obtain ⟨decoded, hd, hrest⟩ := addFiles_cons_ok.mp hok
    rw [addFiles_cons_events hd, List.filter_append, ih hrest]
    cases decoded with
    | recognized slot r =>
      have hnone : (d.addEvents stage (.recognized slot r) file.text).filter Event.isSkip = [] := by
        cases hhas : d.has r.kind <;> simp [Draft.addEvents, hhas, Event.isSkip]
      simp [Manifest.Decoded.events, hnone, Event.isSkip, skipRecord?, unsupported?, hd]
    | unrecognized kind =>
      have hrecord : skipRecord? decode root file = some (.skipped kind file.text) := by
        simp [skipRecord?, unsupported?, hd]
      rw [List.filterMap_cons_some hrecord]
      rfl

/-- Of a kind that the draft does not have, the first file replaces nothing. -/
def replacing (d : Draft) (k : Kind) (ofKind : List RelativePath) : List RelativePath :=
  if d.has k then ofKind else ofKind.tail

theorem addFiles_replacements (hok : (addFiles stage root decode d found).result = .ok d') (k : Kind) :
    (addFiles stage root decode d found).events.filter (Event.replaces k) =
      (replacing d k (filesOfKind decode root found k)).map fun file => .replaced stage k file.text := by
  induction found generalizing d with
  | nil => simp [addFiles, replacing, filesOfKind]
  | cons file rest ih =>
    obtain ⟨decoded, hd, hrest⟩ := addFiles_cons_ok.mp hok
    rw [addFiles_cons_events hd, List.filter_append, ih hrest]
    cases decoded with
    | recognized slot r =>
      by_cases hk : r.kind = k
      · subst hk
        have hadded : (d.add (.recognized slot r) file.text).has r.kind = true := by
          simp [Draft.has, Draft.add]
        rw [filesOfKind_cons_same hd]
        cases hhas : d.has r.kind <;>
          simp [Manifest.Decoded.events, Draft.addEvents, Event.replaces, replacing, hadded, hhas]
      · have hadded : (d.add (.recognized slot r) file.text).has k = d.has k := by
          simp [Draft.has, Draft.add, hk]
        have hnone : (d.addEvents stage (.recognized slot r) file.text).filter (Event.replaces k) = [] := by
          cases hhas : d.has r.kind <;> simp [Draft.addEvents, hhas, Event.replaces, hk]
        rw [filesOfKind_cons_other hd hk]
        simp [Manifest.Decoded.events, Event.replaces, replacing, hnone, hadded]
    | unrecognized kind =>
      rw [filesOfKind_cons_unrecognized hd]
      simp [Manifest.Decoded.events, Draft.addEvents, Event.replaces, replacing, Draft.has, Draft.add]

/-! The whole build. -/

variable {directory : String} {name : Option String} {s : Stage World} {events : List Event}

/-- What a built stage and its log hold of the files that are found. -/
structure BuiltFrom [Yaml.Reader] (files : Files.Tree) (root : Files.Path) (stage : String)
    (found : List RelativePath) (s : Stage World) (events : List Event) : Prop where
  decoded : ∀ file ∈ found,
    (∃ r, decodeFile files (filePath root file) = .ok (.recognized r.kind.slotName r)) ∨
      ∃ kind, decodeFile files (filePath root file) = .ok (.unrecognized kind) ∧ Kind.ofName? kind = none
  entries : s.entries =
    (found.filterMap (recognized? (decodeFile files) root)).map fun r => ⟨r.kind.name, r.name⟩
  controls : s.controls =
    (found.filterMap (recognized? (decodeFile files) root)).map fun r => Readiness.control World r.kind
  skipped : s.skipped = (filesSkipped (decodeFile files) root found).map RelativePath.text
  aligned : s.controls.length = s.entries.length
  complete : s.entries.length + s.skipped.length = found.length
  /-- The slot of a kind has the last resource of the kind. -/
  bundle : ∀ k, s.bundle.get k =
    ((found.filterMap (recognized? (decodeFile files) root)).filter fun r => r.kind = k).getLast?
  /-- There is one record for each file of an unsupported kind. -/
  skipRecords : events.filter Event.isSkip = found.filterMap (skipRecord? (decodeFile files) root)
  skipLevel : ∀ e ∈ events.filter Event.isSkip, e.level = .info
  /-- There is one warning for each file of a kind but the first. -/
  replacements : ∀ k, events.filter (Event.replaces k) =
    (filesOfKind (decodeFile files) root found k).tail.map fun file => .replaced stage k file.text
  replacementLevel : ∀ k, ∀ e ∈ events.filter (Event.replaces k), e.level = .warning

theorem decodeFile_unsupported [Yaml.Reader] {path : String}
    (hkind : decodeFile files path = .ok (.unrecognized kind)) : Kind.ofName? kind = none := by
  obtain ⟨bytes, -, hdecode⟩ := bind_eq_ok.mp hkind
  exact Manifest.unsupported_of_decode hdecode

theorem decodeFile_slot [Yaml.Reader] {path : String}
    (hd : decodeFile files path = .ok (.recognized slot r)) :
    slot = r.kind.slotName := by
  obtain ⟨bytes, -, hdecode⟩ := bind_eq_ok.mp hd
  exact Manifest.slot_of_decode hdecode

/-- Each file is recognized or skipped. -/
theorem length_recognized_add_skipped
    (hdecoded : ∀ file ∈ found, ∃ decoded, decode (filePath root file) = .ok decoded) :
    (found.filterMap (recognized? decode root)).length + (filesSkipped decode root found).length =
      found.length := by
  induction found with
  | nil => rfl
  | cons file rest ih =>
    obtain ⟨⟨decoded, hd⟩, hrest⟩ := List.forall_mem_cons.mp hdecoded
    have hlength := ih hrest
    cases decoded with
    | recognized slot r =>
      rw [List.filterMap_cons_some (recognized?_eq_some.mpr ⟨slot, hd⟩), filesSkipped_cons_recognized hd,
        List.length_cons, List.length_cons]
      omega
    | unrecognized kind =>
      have hnone : recognized? decode root file = none := by simp [recognized?, hd]
      rw [List.filterMap_cons_none hnone, filesSkipped_cons_unrecognized hd, List.length_cons,
        List.length_cons]
      omega

/-- A built stage has an entry and a control for each recognized file, the name of each other file, and for
each kind the last resource; its log has a record for each skipped file, and a warning for each file of a
kind but the first. -/
theorem build_contents [Yaml.Reader] (hbuild : (build World files directory name).result = .ok s) :
    ∃ found, Files.discover files (.ofText directory) = .ok found ∧
      (found.Pairwise fun p q => p.text ≤ q.text) ∧
      BuiltFrom files (.ofText directory) (nameFor name (.ofText directory)) found s
        (build World files directory name).events := by
  obtain ⟨found, d, hfound, hadded, rfl⟩ := build_eq_ok.mp hbuild
  obtain ⟨-, -, -, hsorted⟩ := Files.discover_ok hfound
  have hresources := addFiles_resources hadded
  have hskipped := addFiles_skipped hadded
  have hdecoded := addFiles_decoded hadded
  have hskips := addFiles_skipRecords hadded
  have hreplacements := addFiles_replacements hadded
  rw [Draft.empty, List.nil_append] at hresources hskipped
  generalize hevents : (build World files directory name).events = events
  have hlog : events = (addFiles (nameFor name (.ofText directory)) (.ofText directory) (decodeFile files)
      .empty found).events ++ [.built (nameFor name (.ofText directory))
        (Files.Path.ofText directory).text d.resources.length d.skipped.length] := by
    rw [← hevents]
    unfold build
    simp [manifests_eq_ok.mpr hfound, hadded]
  refine ⟨found, hfound, hsorted, ?_⟩
  constructor
  case decoded =>
    intro file hfile
    obtain ⟨decoded, hd⟩ := hdecoded file hfile
    cases decoded with
    | recognized slot r => exact .inl ⟨r, decodeFile_slot hd ▸ hd⟩
    | unrecognized kind => exact .inr ⟨kind, hd, decodeFile_unsupported hd⟩
  case entries => simp only [Draft.toStage, hresources]
  case controls => simp only [Draft.toStage, hresources]
  case skipped => exact hskipped
  case aligned => simp [Draft.toStage]
  case complete =>
    rw [← length_recognized_add_skipped hdecoded]
    simp [Draft.toStage, hresources, hskipped]
  case bundle =>
    intro k
    rw [← hresources]
    exact Bundle.foldl_put_get d.resources k
  case skipRecords =>
    rw [hlog, List.filter_append, hskips]
    simp [Event.isSkip]
  case skipLevel =>
    intro e he
    exact Event.level_of_isSkip (List.mem_filter.mp he).2
  case replacements =>
    intro k
    rw [hlog, List.filter_append, hreplacements k]
    simp [Event.replaces, replacing, Draft.has, Draft.empty]
  case replacementLevel =>
    intro k e he
    exact Event.level_of_replaces (List.mem_filter.mp he).2

/-! The directory of the two accounts, with a secret, which no stage can hold. -/

def secretFiles : Files.Tree :=
  ⟨.directory [("d", .directory [("a", Stepper.accountFile "a"), ("b", Stepper.accountFile "b"),
    ("c", .file "kind: Secret\n".toUTF8.toList false)] .full)] .full, []⟩

theorem secret_found : Files.discover secretFiles (.ofText "d") = .ok [["a"], ["b"], ["c"]] := by
  have hfind : ∃ entries access, secretFiles.find (Files.Path.ofText "d").text =
      .ok (.directory entries access) ∧ (Files.Entry.directory entries access).filesBelow
        (secretFiles.probe (.ofText "d")) [] = .ok [["a"], ["b"], ["c"]] := ⟨_, _, rfl, rfl⟩
  obtain ⟨entries, access, hfind, hfiles⟩ := hfind
  exact Files.discover_of_sorted hfind hfiles (by decide)

/-- Whether a file declares a kind that is not supported. -/
def isUnrecognized (kind : String) : Manifest.Decoded → Bool
  | .unrecognized k => k == kind
  | .recognized _ _ => false

theorem secret_unrecognized :
    decodeFile secretFiles (filePath (.ofText "d") ["c"]) = .ok (.unrecognized "Secret") := by
  have hdecoded : (decodeFile secretFiles (filePath (.ofText "d") ["c"])).toOption.any
      (isUnrecognized "Secret") = true := by
    decide +kernel
  cases hd : decodeFile secretFiles (filePath (.ofText "d") ["c"]) with
  | error f => simp [hd, Except.toOption] at hdecoded
  | ok decoded =>
    cases decoded with
    | recognized slot r => simp [hd, Except.toOption, isUnrecognized] at hdecoded
    | unrecognized kind =>
      simp only [hd, Except.toOption, Option.any_some, isUnrecognized, beq_iff_eq] at hdecoded
      rw [hdecoded]

/-- The accounts read as they do without the secret. -/
theorem secret_account {name : String} (hname : name = "a" ∨ name = "b") :
    ∃ slot r, decodeFile secretFiles (filePath (.ofText "d") [name]) = .ok (.recognized slot r) ∧
      Stepper.IsAccount name r := by
  have hread : secretFiles.read (filePath (.ofText "d") [name]) =
      Stepper.accountFiles.read (filePath (.ofText "d") [name]) := by
    rcases hname with rfl | rfl <;> rfl
  have hsame : decodeFile secretFiles (filePath (.ofText "d") [name]) =
      decodeFile Stepper.accountFiles (filePath (.ofText "d") [name]) := by
    rw [decodeFile, decodeFile, hread]
  rw [hsame]
  exact Stepper.account_recognized hname

/-- Each account has its control, the second replaces the first, and the secret is skipped. -/
theorem accounts_contents :
    ∃ s, (build Site secretFiles "d" none).result = .ok s ∧ s.skipped = ["c"] ∧
      s.controls = [Readiness.control Site .serviceAccount, Readiness.control Site .serviceAccount] ∧
      (build Site secretFiles "d" none).events.filter Event.isSkip = [.skipped "Secret" "c"] ∧
      (build Site secretFiles "d" none).events.filter (Event.replaces .serviceAccount) =
        [.replaced "d" .serviceAccount "b"] := by
  obtain ⟨_, a, ha, hisa⟩ := secret_account (.inl rfl)
  obtain ⟨_, b, hb, hisb⟩ := secret_account (.inr rfl)
  have hadded : (addFiles (nameFor none (.ofText "d")) (.ofText "d") (decodeFile secretFiles) .empty
      [["a"], ["b"], ["c"]]).result = .ok ⟨[a, b], ["c"]⟩ :=
    addFiles_cons_ok.mpr ⟨_, ha, addFiles_cons_ok.mpr ⟨_, hb,
      addFiles_cons_ok.mpr ⟨_, secret_unrecognized, rfl⟩⟩⟩
  have hbuild : (build Site secretFiles "d" none).result = .ok _ :=
    build_eq_ok.mpr ⟨_, _, secret_found, hadded, rfl⟩
  obtain ⟨found, hfound, -, hcontents⟩ := build_contents hbuild
  obtain rfl := Except.ok.inj (secret_found.symm.trans hfound)
  have hstage : nameFor none (.ofText "d") = "d" := rfl
  have htexts : RelativePath.text ["b"] = "b" ∧ RelativePath.text ["c"] = "c" := ⟨rfl, rfl⟩
  refine ⟨_, hbuild, hcontents.skipped.trans ?_, hcontents.controls.trans ?_,
    hcontents.skipRecords.trans ?_, (hcontents.replacements _).trans ?_⟩
  · simp [filesSkipped, unsupported?, ha, hb, secret_unrecognized, htexts]
  · simp [recognized?, ha, hb, secret_unrecognized, hisa.kind, hisb.kind]
  · simp [skipRecord?, unsupported?, ha, hb, secret_unrecognized, htexts]
  · simp [filesOfKind, recognized?, ha, hb, secret_unrecognized, hisa.kind, hisb.kind, hstage, htexts]

end Stage
end StageGate
