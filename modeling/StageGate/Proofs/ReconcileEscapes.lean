import StageGate.Proofs.DecodeFaults
import StageGate.Proofs.ExactDiscovery
import StageGate.Proofs.ReconcilerHistory
import StageGate.Proofs.StageLoading
import StageGate.Proofs.ValidConfigs
import StageGate.Reconcile.Site

/-!
The faults that a reconcile lets escape. The main result says what they are when the reconciler is made
from a configuration and the reconcile brings no token: the timeout is an integer too large for the
clock, or the stages fail to load for a manifest whose decoding escapes, or for a name that cannot be
looked up.
-/

namespace StageGate
open Files (filePath)

namespace Config
variable {v : Value} {c : Config}

/-- The timeout of a configuration that is accepted. -/
theorem timeout_accepted (hc : ofValue v = .ok c) :
    c.timeout = .null ∨ (∃ n, c.timeout = .int n) ∨ ∃ x, c.timeout = .float x := by
  obtain ⟨es, -, hvalid, hstates⟩ := exists_states hc
  rcases hstates.timeout.given_or_absent with hgiven | ⟨-, hnull⟩
  · generalize c.timeout = timeout at hgiven
    cases hasType_of_fits (x := .timeout) hvalid.fits hgiven with
    | integer n => exact .inr (.inl ⟨n, rfl⟩)
    | decimal x => exact .inr (.inr ⟨x, rfl⟩)
  · exact .inl hnull

/-- The timeout is an integer too large to be added to the clock. -/
def Untimed (c : Config) : Prop :=
  ∃ n, c.timeout = .int n ∧ Token.timeoutLimit ≤ n.natAbs

theorem ofTimeout_eq_error (hc : ofValue v = .ok c) {now : Rat} {m : Mismatch} :
    Token.ofTimeout now c.timeout = .error m ↔ m = .outOfRange ∧ c.Untimed := by
  unfold Untimed
  rcases timeout_accepted hc with htimeout | ⟨n, htimeout⟩ | ⟨x, htimeout⟩
  · simp [htimeout, Token.ofTimeout]
  · by_cases hn : Token.timeoutLimit ≤ n.natAbs
    · simp [htimeout, Token.ofTimeout, hn, eq_comm]
    · simp [htimeout, Token.ofTimeout, hn]
  · simp [htimeout, Token.ofTimeout, Deadline.ofValue?]

end Config

namespace Stage
variable {World : Type} {files : Files.Tree} {d : String × String} {m : Mismatch}

/-- The manifest can be read, and its decoding escapes. -/
def Undecoded [Yaml.Reader] (files : Files.Tree) (path : String) (m : Mismatch) : Prop :=
  ∃ bytes, files.read path = .ok bytes ∧ Manifest.Escapes .standard bytes m

/-- The fault is reported by a reconcile, or it is a mismatch or a failed look-up. -/
def Expected (f : Fault) : Prop :=
  f.isDecode = true ∨ (∃ m, f = .mismatch m) ∨ ∃ why, f = .access why

theorem decodeFile_eq_mismatch [Yaml.Reader] {path : String} :
    decodeFile files path = .error (.mismatch m) ↔ Undecoded files path m := by
  unfold decodeFile Undecoded
  cases hread : files.read path with
  | error why => simp [bind, Except.bind]
  | ok bytes =>
    have hdecode : Manifest.decode .standard (some path) bytes = .error (.mismatch m) ↔ _ :=
      Manifest.decode_eq_mismatch
    simpa [bind, Except.bind] using hdecode

theorem manifests_eq_access {directory : Files.Path} {why : Files.AccessFault} :
    manifests files directory = .error (.access why) ↔
      Files.discover files directory = .error (.unreached why) := by
  unfold manifests
  rcases Files.discover files directory with (_ | _ | _) | _ <;> simp [Except.mapError]

/-- The search of a directory fails as loading does, or for a failed look-up. -/
theorem manifests_failsOnly (directory : Files.Path) :
    FailsOnly (fun f => f.isDecode = true ∨ ∃ why, f = .access why) (manifests files directory) := by
  unfold manifests
  refine .mapError fun why _ => ?_
  cases why with
  | noDirectory | unlistable => exact .inl rfl
  | unreached why => exact .inr ⟨why, rfl⟩

variable [Yaml.Reader]

theorem decodeFile_failsOnly (path : String) :
    FailsOnly (fun f => f.isDecode = true ∨ ∃ m, f = .mismatch m) (decodeFile files path) := by
  unfold decodeFile
  refine .bind (.mapError fun why _ => .inl rfl) fun bytes _ => ?_
  intro f hf
  rcases Manifest.decode_fault hf with hnames | hm
  · exact .inl hnames.isDecode
  · exact .inr hm

/-- Loading comes to the manifest at a path: the directories before its own are built, and the manifests
before it in its directory are decoded. -/
inductive LoadReaches (World : Type) (files : Files.Tree) (directories : List (String × String)) :
    String → Prop where
  | intro {before d after earlier file later} (hdirectories : directories = before ++ d :: after)
      (hbefore : ∀ b ∈ before, ∃ s, built World files b = .ok s)
      (hfound : manifests files (.ofText d.2) = .ok (earlier ++ file :: later))
      (hearlier : ∀ p ∈ earlier, ∃ x, decodeFile files (filePath (.ofText d.2) p) = .ok x) :
      LoadReaches World files directories (filePath (.ofText d.2) file)

/-- Loading comes to a directory whose search ends in a failed look-up. -/
inductive LoadStrays (World : Type) (files : Files.Tree) (directories : List (String × String))
    (why : Files.AccessFault) : Prop where
  | intro {before d after} (hdirectories : directories = before ++ d :: after)
      (hbefore : ∀ b ∈ before, ∃ s, built World files b = .ok s)
      (hsearch : Files.discover files (.ofText d.2) = .error (.unreached why))

theorem built_eq_mismatch :
    built World files d = .error (.mismatch m) ↔
      ∃ found, manifests files (.ofText d.2) = .ok found ∧
        FirstError (fun file => decodeFile files (filePath (.ofText d.2) file)) found (.mismatch m) := by
  rw [built, build_eq_error, or_iff_right]
  intro hm
  rcases manifests_failsOnly _ _ hm with hdecode | ⟨why, hwhy⟩
  · cases hdecode
  · cases hwhy

theorem built_eq_access {why : Files.AccessFault} :
    built World files d = .error (.access why) ↔
      Files.discover files (.ofText d.2) = .error (.unreached why) := by
  rw [built, build_eq_error, or_iff_left, manifests_eq_access]
  rintro ⟨found, -, hfirst⟩
  obtain ⟨file, -, hfile⟩ := FirstError.exists_error hfirst
  rcases decodeFile_failsOnly _ _ hfile with hdecode | ⟨m, hm⟩
  · cases hdecode
  · cases hm

/-- Loading ends in a mismatch exactly where it comes to a manifest whose decoding escapes. -/
theorem firstError_mismatch {directories : List (String × String)} :
    FirstError (built World files) directories (.mismatch m) ↔
      ∃ path, LoadReaches World files directories path ∧ Undecoded files path m := by
  constructor
  · rintro ⟨before, d, after, hdirectories, hbefore, hd⟩
    obtain ⟨found, hfound, earlier, file, later, rfl, hearlier, hfile⟩ := built_eq_mismatch.mp hd
    exact ⟨_, .intro hdirectories hbefore hfound hearlier, decodeFile_eq_mismatch.mp hfile⟩
  · rintro ⟨path, ⟨hdirectories, hbefore, hfound, hearlier⟩, hundecoded⟩
    have hfile := decodeFile_eq_mismatch.mpr hundecoded
    exact ⟨_, _, _, hdirectories, hbefore,
      built_eq_mismatch.mpr ⟨_, hfound, _, _, _, rfl, hearlier, hfile⟩⟩

/-- Loading ends in a failed look-up exactly where the search of a directory does. -/
theorem firstError_access {directories : List (String × String)} {why : Files.AccessFault} :
    FirstError (built World files) directories (.access why) ↔ LoadStrays World files directories why := by
  constructor
  · rintro ⟨before, d, after, hdirectories, hbefore, hd⟩
    exact .intro hdirectories hbefore (built_eq_access.mp hd)
  · rintro ⟨hdirectories, hbefore, hsearch⟩
    exact ⟨_, _, _, hdirectories, hbefore, built_eq_access.mpr hsearch⟩

/-- It is the directory itself, or a name below it, that cannot be looked up. -/
theorem LoadStrays.exists_test {directories : List (String × String)} {why : Files.AccessFault}
    (hstrays : LoadStrays World files directories why) : ∃ path, files.test path = .error why := by
  obtain @⟨-, d, -, -, -, hsearch⟩ := hstrays
  have hends := Files.discover_ends files (.ofText d.2)
  rw [hsearch] at hends
  cases hends with
  | astray hwhy => exact ⟨_, hwhy⟩
  | stopped _ hf =>
    cases hf with
    | unreached _ _ _ hwhy => exact ⟨_, hwhy⟩

theorem built_failsOnly (d : String × String) : FailsOnly Expected (built World files d) := by
  intro f hf
  rcases build_eq_error.mp hf with hm | ⟨found, -, hfirst⟩
  · exact (manifests_failsOnly _ f hm).imp_right .inr
  · obtain ⟨file, -, hfile⟩ := FirstError.exists_error hfirst
    exact (decodeFile_failsOnly _ f hfile).imp_right .inl

end Stage

namespace Reconciler
variable {World : Type} {settings : Settings World} {h : Host World} {r : Reconciler World}
  {i : Identity} {token : Option Token} {w : World} {f : Fault}

/-- The faults that escape: a token cannot be made, or the stages cannot be loaded for something else
than a fault of a manifest. -/
inductive Escapes (settings : Settings World) (h : Host World) (c : Catalog World) (i : Identity)
    (token : Option Token) (w : World) : Fault → Prop where
  | untimed {m} (htoken : tokenFor settings (h.now w) token = .error m) :
      Escapes settings h c i token w (.mismatch m)
  | unloaded {t subject t' w' f} (htoken : tokenFor settings (h.now w) token = .ok t)
      (ht : t.fired (h.now w) = false)
      (hg : h.get (instanceLookup settings i) t w = (.ok subject, t', w'))
      (hl : (c.stages settings.source w').2.result = .error f) (hf : f.isDecode = false) :
      Escapes settings h c i token w f

/-- What escapes from a reconcile, and nothing else does. -/
theorem reconcile_eq_error :
    (r.reconcile settings h i token w).result.2 = .error f ↔
      Escapes settings h r.catalog i token w f := by
  rw [reconcile_eq]
  constructor
  -- One case for each exit: only two of them leave no outcome.
  · intro hr
    cases htoken : tokenFor settings (h.now w) token with
    | error m =>
      simp only [htoken] at hr
      cases hr
      exact .untimed htoken
    | ok t =>
      simp only [htoken] at hr
      cases ht : t.fired (h.now w) with
      | true =>
        rw [reconcileWith_cancelled ht] at hr
        cases hr
      | false =>
        rcases hg : h.get (instanceLookup settings i) t w with ⟨g | subject, t', w'⟩
        · rw [reconcileWith_unfetched ht hg] at hr
          cases hr
        · rw [reconcileWith_fetched ht hg] at hr
          cases hl : (r.catalog.stages settings.source w').2.result with
          | error g =>
            simp only [load_of_error hl] at hr
            split at hr
            · cases hr
            · rename_i hf
              cases hr
              exact .unloaded htoken ht hg hl (by simpa using hf)
          | ok ss =>
            simp only [load_of_ok hl, apply_result] at hr
            cases hr
  · intro hescape
    cases hescape with
    | untimed htoken => simp only [htoken]
    | unloaded htoken ht hg hl hf =>
      simp only [htoken, reconcileWith_fetched ht hg, load_of_error hl, hf, Bool.false_eq_true, if_false]

end Reconciler

namespace Config
open Reconciler (instanceLookup)

variable {World : Type}

section
variable [Yaml.Reader]

/-- What escapes from the first reconcile of a configured reconciler when it brings no token: the timeout
is too large for the clock, or the instance is found and loading comes to a manifest whose decoding escapes,
or to a directory whose search ends in a failed look-up. -/
inductive Escapes (c : Config) (files : World → Files.Tree) (h : Host World) (i : Identity) (w : World) :
    Fault → Prop where
  | untimed (huntimed : c.Untimed) : Escapes c files h i w (.mismatch .outOfRange)
  | undecoded {t subject t' w' path m} (htoken : Token.ofTimeout (h.now w) c.timeout = .ok t)
      (ht : t.fired (h.now w) = false)
      (hg : h.get (instanceLookup (c.settings (.ofDirectories files c.stageDirs)) i) t w =
        (.ok subject, t', w'))
      (hreach : Stage.LoadReaches World (files w') c.stageDirs path)
      (hundecoded : Stage.Undecoded (files w') path m) : Escapes c files h i w (.mismatch m)
  | astray {t subject t' w' why} (htoken : Token.ofTimeout (h.now w) c.timeout = .ok t)
      (ht : t.fired (h.now w) = false)
      (hg : h.get (instanceLookup (c.settings (.ofDirectories files c.stageDirs)) i) t w =
        (.ok subject, t', w'))
      (hstrays : Stage.LoadStrays World (files w') c.stageDirs why) : Escapes c files h i w (.access why)

theorem escapes_iff {v : Value} {c : Config} (hc : ofValue v = .ok c) {files : World → Files.Tree}
    {h : Host World} {i : Identity} {w : World} {f : Fault} :
    Reconciler.Escapes (c.settings (.ofDirectories files c.stageDirs)) h .empty i none w f ↔
      c.Escapes files h i w f := by
  have hsource (w' : World) :
      ((Catalog.empty : Catalog World).stages (.ofDirectories files c.stageDirs) w').2.result = .error f ↔
        FirstError (Stage.built World (files w')) c.stageDirs f := by
    have hk : (Catalog.empty : Catalog World).kept = none := rfl
    rw [Catalog.stages_of_not_kept hk, StageSource.ofDirectories_eq_error]
  constructor
  · intro hescape
    cases hescape with
    | untimed htoken =>
      obtain ⟨rfl, huntimed⟩ := (ofTimeout_eq_error hc).mp htoken
      exact .untimed huntimed
    | unloaded htoken ht hg hl hf =>
      have hfirst := (hsource _).mp hl
      obtain ⟨d, -, hd⟩ := hfirst.exists_error
      rcases Stage.built_failsOnly d f hd with hdecode | ⟨m, rfl⟩ | ⟨why, rfl⟩
      · simp [hdecode] at hf
      · obtain ⟨path, hreach, hundecoded⟩ := Stage.firstError_mismatch.mp hfirst
        exact .undecoded htoken ht hg hreach hundecoded
      · exact .astray htoken ht hg (Stage.firstError_access.mp hfirst)
  · intro hescape
    cases hescape with
    | untimed huntimed => exact .untimed ((ofTimeout_eq_error hc).mpr ⟨rfl, huntimed⟩)
    | undecoded htoken ht hg hreach hundecoded =>
      have hfirst := Stage.firstError_mismatch.mpr ⟨_, hreach, hundecoded⟩
      exact .unloaded htoken ht hg ((hsource _).mpr hfirst) rfl
    | astray htoken ht hg hstrays =>
      exact .unloaded htoken ht hg ((hsource _).mpr (Stage.firstError_access.mpr hstrays)) rfl

/-- A reconcile without a token of a reconciler made from a configuration gives an outcome, unless the
timeout is an integer too large for the clock, or the instance is found and the stages fail to load for a
manifest whose decoding escapes, or for a name that cannot be looked up. -/
theorem reconcile_returns_unless {v : Value} {c : Config} (hc : ofValue v = .ok c)
    (files : World → Files.Tree) (h : Host World) (i : Identity) (w : World) :
    let reconciled := Reconciler.new.reconcile (c.settings (.ofDirectories files c.stageDirs)) h i none w
    ((∃ outcome, reconciled.result.2 = .ok outcome) ↔ ∀ f, ¬ c.Escapes files h i w f) ∧
      (∀ f, reconciled.result.2 = .error f ↔ c.Escapes files h i w f) ∧
      ∀ why, c.Escapes files h i w (.access why) → ∃ w' path, (files w').test path = .error why := by
  intro reconciled
  have herror (f : Fault) : reconciled.result.2 = .error f ↔ c.Escapes files h i w f :=
    Reconciler.reconcile_eq_error.trans (escapes_iff hc)
  refine ⟨?_, herror, fun why hescape => ?_⟩
  · cases hresult : reconciled.result.2 with
    | ok outcome =>
      have hnot (f : Fault) : ¬ c.Escapes files h i w f := by simp [← herror, hresult]
      simpa using hnot
    | error f =>
      have hf := (herror f).mp hresult
      simpa using ⟨f, hf⟩
  · cases hescape with
    | astray _ _ _ hstrays => exact ⟨_, hstrays.exists_test⟩

end

/-! A site whose only manifest has a date that no calendar has, a site with a link that leads nowhere, and a
timeout that no clock reaches. -/

/-- A configuration with a single stage. -/
def singleStage (assetsDir stage : String) : Value :=
  .map false [(.str "assetsDir", .str assetsDir), (.str "stages", .list [.str stage])]

def singleConfig (assetsDir stage : String) : Config :=
  { standard with assetsDir, stages := [stage] }

def endlessTimeout : Value :=
  .map false [(.str "timeoutSeconds", .int Token.timeoutLimit)]

def endlessConfig : Config :=
  { standard with timeout := .int Token.timeoutLimit }

def datedInstance : Value :=
  .map false [(.str "kind", .str "NodeFeatureDiscovery"), (.str "metadata", .map false [
    (.str "name", .str "nfd-instance"), (.str "namespace", .str "nfd")])]

def datedFiles : Files.Tree :=
  ⟨.directory [("assets", .directory [("d", .directory [
    ("a", .file Manifest.impossibleDate false)] .full)] .full)] .full, []⟩

/-- A site with the live instance and some files. -/
def siteOf (files : Files.Tree) : Site :=
  ⟨Cluster.empty.insert ⟨[.str "NodeFeatureDiscovery"], some [.str "nfd"], [.str "nfd-instance"]⟩
    datedInstance, files⟩

/-- The outcome of the first reconcile of the instance. -/
def firstOutcome [Yaml.Reader] (c : Config) (files : Files.Tree) : Except Fault Outcome :=
  (Reconciler.new.reconcile (Site.settings c) (Site.host 0) ⟨"nfd", "nfd-instance"⟩ none
    (siteOf files)).result.2

theorem datedSite_classified :
    ofValue (singleStage "assets" "d") = .ok (singleConfig "assets" "d") ∧
      ((∃ outcome, firstOutcome (singleConfig "assets" "d") datedFiles = .ok outcome) ↔
        ∀ f, ¬ (singleConfig "assets" "d").Escapes Site.files (Site.host 0) ⟨"nfd", "nfd-instance"⟩
          (siteOf datedFiles) f) ∧
      (∀ f, firstOutcome (singleConfig "assets" "d") datedFiles = .error f ↔
        (singleConfig "assets" "d").Escapes Site.files (Site.host 0) ⟨"nfd", "nfd-instance"⟩
          (siteOf datedFiles) f) ∧
      ∀ why, (singleConfig "assets" "d").Escapes Site.files (Site.host 0) ⟨"nfd", "nfd-instance"⟩
          (siteOf datedFiles) (.access why) → ∃ w' path, (Site.files w').test path = .error why :=
  have hc : ofValue (singleStage "assets" "d") = .ok (singleConfig "assets" "d") := rfl
  ⟨hc, reconcile_returns_unless hc Site.files (Site.host 0) ⟨"nfd", "nfd-instance"⟩ (siteOf datedFiles)⟩

theorem linked_outcome {target : String} (hslash : '/' ∉ target.toList)
    (hlong : Files.Tree.nameLimit < target.utf8ByteSize) :
    firstOutcome (singleConfig "." "d") (Files.linkTree target) =
      .error (.access ⟨.nameTooLong, "d/l"⟩) := by
  have hc : ofValue (singleStage "." "d") = .ok (singleConfig "." "d") := rfl
  have hdirectories : (singleConfig "." "d").stageDirs = [] ++ ("d", "d") :: [] := by decide
  have hstrays : Stage.LoadStrays Site (Files.linkTree target) (singleConfig "." "d").stageDirs
      ⟨.nameTooLong, "d/l"⟩ := .intro hdirectories (by simp) (Files.discover_linkTree hslash hlong).2
  exact Reconciler.reconcile_eq_error.mpr ((escapes_iff hc).mpr (.astray rfl rfl rfl hstrays))

theorem datedSite_escapes :
    (ofValue (singleStage "assets" "d") = .ok (singleConfig "assets" "d") ∧
      ¬ ∃ outcome, firstOutcome (singleConfig "assets" "d") datedFiles = .ok outcome) ∧
    (ofValue (singleStage "." "d") = .ok (singleConfig "." "d") ∧
      ∃ files, ¬ ∃ outcome, firstOutcome (singleConfig "." "d") files = .ok outcome) ∧
    ofValue endlessTimeout = .ok endlessConfig ∧
      ¬ ∃ outcome, firstOutcome endlessConfig datedFiles = .ok outcome := by
  have hdated : firstOutcome (singleConfig "assets" "d") datedFiles = .error (.mismatch .badValue) :=
    Manifest.endsIn_iff.mp (by decide +kernel)
  obtain ⟨target, hslash, hlong⟩ := Files.exists_longName
  have hlinked := linked_outcome hslash hlong
  have hc : ofValue endlessTimeout = .ok endlessConfig := rfl
  have huntimed : endlessConfig.Untimed :=
    ⟨Token.timeoutLimit, rfl, Nat.le_of_eq (Int.natAbs_natCast _).symm⟩
  have hendless : firstOutcome endlessConfig datedFiles = .error (.mismatch .outOfRange) :=
    Reconciler.reconcile_eq_error.mpr ((escapes_iff hc).mpr (.untimed huntimed))
  refine ⟨⟨rfl, ?_⟩, ⟨rfl, Files.linkTree target, ?_⟩, hc, ?_⟩
  · rintro ⟨outcome, houtcome⟩
    cases hdated.symm.trans houtcome
  · rintro ⟨outcome, houtcome⟩
    cases hlinked.symm.trans houtcome
  · rintro ⟨outcome, houtcome⟩
    cases hendless.symm.trans houtcome

end Config
end StageGate
