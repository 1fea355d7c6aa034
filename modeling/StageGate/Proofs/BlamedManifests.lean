import StageGate.Proofs.ConvergenceSoundness
import StageGate.Proofs.LatestManifests
import StageGate.Proofs.LiveCounterparts

/-!
The manifest that a blocked stage is blamed on. Each check goes with a manifest, and its fault names that
one, but what it looks at is the latest manifest of the kind. So a fault names the first manifest whose
kind is wanting, which need not be wanting itself. A type error takes the place of the fault if the latest
manifest of the kind is to be found in a namespace that cannot be part of a key, and a value error if what
has to be reported of it cannot be written.
-/

namespace StageGate

namespace Stage
open Readiness (IsLive Wanting Unplaced Unwritten Lends)

variable {World : Type} {h : Host World} {site : World → Site} {files : Files.Tree} {directory : String}
  {name : Option String} {s : Stage World} {subject : Value} {file : Files.RelativePath} {r : Resource}
  {c : Check World} {cs : List (Check World)} {t : Token} {w : World} {f : Fault}

section
variable [Yaml.Reader]

/-- The latest resource of a kind has a live counterpart that meets the rule of the kind. -/
def KindLive (files : Files.Tree) (directory : Files.Path) (cluster : Cluster) (subject : Value)
    (k : Kind) : Prop :=
  ∀ file r, Latest files directory file r → r.kind = k → IsLive cluster subject r

/-- The latest resource of a kind is wanting. -/
def KindWanting (files : Files.Tree) (directory : Files.Path) (cluster : Cluster) (subject : Value)
    (k : Kind) : Prop :=
  ∃ file r, Latest files directory file r ∧ r.kind = k ∧ Wanting cluster subject r

/-- The latest resource of a kind is to be found in a namespace that cannot be part of a key. -/
def KindUnplaced (files : Files.Tree) (directory : Files.Path) (subject : Value) (k : Kind) : Prop :=
  ∃ file r, Latest files directory file r ∧ r.kind = k ∧ Unplaced subject r

/-- What has to be reported of the latest resource of a kind cannot be written. -/
def KindUnwritten (files : Files.Tree) (directory : Files.Path) (cluster : Cluster) (subject : Value)
    (k : Kind) : Prop :=
  ∃ file r, Latest files directory file r ∧ r.kind = k ∧ Unwritten cluster subject r

/-- The fault that a stage is stopped with at a manifest whose kind is not live. -/
inductive Blame (files : Files.Tree) (directory : Files.Path) (cluster : Cluster) (subject : Value)
    (stageName : String) (r : Resource) : Fault → Prop where
  | wanting (hkind : KindWanting files directory cluster subject r.kind)
      (hwritten : ¬ KindUnwritten files directory cluster subject r.kind) :
      Blame files directory cluster subject stageName r (.notReady stageName r.kind.name r.name)
  | unwritten (hkind : KindUnwritten files directory cluster subject r.kind) :
      Blame files directory cluster subject stageName r (.mismatch .badValue)
  | unplaced (hkind : KindUnplaced files directory subject r.kind) :
      Blame files directory cluster subject stageName r (.mismatch .wrongType)

theorem Blame.not_kindLive {directory : Files.Path} {cluster : Cluster} {stageName : String}
    (hblame : Blame files directory cluster subject stageName r f) :
    ¬ KindLive files directory cluster subject r.kind := by
  intro hlive
  cases hblame with
  | wanting hkind =>
    obtain ⟨file, r', hlatest, hr', hwanting⟩ := hkind
    exact hwanting.not_isLive (hlive file r' hlatest hr')
  | unwritten hkind =>
    obtain ⟨file, r', hlatest, hr', hunwritten⟩ := hkind
    exact hunwritten.not_isLive (hlive file r' hlatest hr')
  | unplaced hkind =>
    obtain ⟨file, r', hlatest, hr', hunplaced⟩ := hkind
    exact hunplaced.not_isLive (hlive file r' hlatest hr')

end

/-- The check of a resource comes to what the control of its kind makes of the bundle. -/
theorem GoesWith.run_result (hreads : h.Reads site) (hc : GoesWith c s r) (subject : Value) (t : Token)
    (w : World) :
    (c.run h subject t w).result = (Readiness.checkIn (site w).cluster subject s.bundle r.kind).1 := by
  obtain ⟨hresult, -⟩ := Readiness.control_checkIn hreads subject s.bundle r.kind t w
  rw [← hresult, Check.run, hc.control, hc.stage]

variable [Yaml.Reader]

theorem kindLive_of_ready (hbuild : (build World files directory name).result = .ok s)
    (hreads : h.Reads site) (hc : GoesWith c s r) (hready : (c.run h subject t w).result = .ok .ready) :
    KindLive files (.ofText directory) (site w).cluster subject r.kind := by
  intro file r' hlatest hkind
  have hslot := hlatest.slot hbuild
  rw [hkind] at hslot
  rw [hc.run_result hreads] at hready
  rcases Readiness.checkIn_eq_ok hslot hkind hready with ⟨-, hlive⟩ | ⟨hne, -⟩
  · exact hlive
  · exact absurd rfl hne

theorem kindWanting_of_answer (hbuild : (build World files directory name).result = .ok s)
    (hreads : h.Reads site) (hfile : Declares files (.ofText directory) file r) (hc : GoesWith c s r)
    {a : Answer} (hanswer : (c.run h subject t w).result = .ok a) (ha : a ≠ .ready) :
    KindWanting files (.ofText directory) (site w).cluster subject r.kind := by
  obtain ⟨p, r', hlatest, hkind, hslot⟩ := exists_latest_slot hbuild hfile
  rw [hc.run_result hreads] at hanswer
  rcases Readiness.checkIn_eq_ok hslot hkind hanswer with ⟨hready, -⟩ | ⟨-, hwanting⟩
  · exact absurd hready ha
  · exact ⟨p, r', hlatest, hkind, hwanting⟩

/-- An answer of a check can be written. -/
theorem not_kindUnwritten_of_answer (hbuild : (build World files directory name).result = .ok s)
    (hreads : h.Reads site) (hc : GoesWith c s r) (hcluster : (site w).cluster.WellTyped) {a : Answer}
    (hanswer : (c.run h subject t w).result = .ok a) :
    ¬ KindUnwritten files (.ofText directory) (site w).cluster subject r.kind := by
  rintro ⟨file, r', hlatest, hkind, hunwritten⟩
  have hslot := hlatest.slot hbuild
  rw [hkind] at hslot
  rw [hc.run_result hreads, hunwritten.checkIn_eq hslot hkind hlatest.declares.textual hcluster] at hanswer
  cases hanswer

/-- With well-typed statuses, a check that fails blames the manifest it goes with. -/
theorem blame_of_fails (hbuild : (build World files directory name).result = .ok s)
    (hreads : h.Reads site) (hfile : Declares files (.ofText directory) file r) (hc : GoesWith c s r)
    (hquiet : ∀ v, t.fired (h.now v) = false) (hsubject : ∃ ns, Lends subject ns)
    (hcluster : (site w).cluster.WellTyped) (hf : c.Fails h subject t w f) :
    Blame files (.ofText directory) (site w).cluster subject s.name r f := by
  cases hf with
  | cancelled hfired => simp [hquiet w] at hfired
  | raised _ hr =>
    obtain ⟨p, r', hlatest, hkind, hslot⟩ := exists_latest_slot hbuild hfile
    rw [hc.run_result hreads] at hr
    rcases Readiness.answers_or_raises hslot hkind hlatest.declares.textual hsubject hcluster with
      ⟨a, ha⟩ | ⟨hunplaced, herror⟩ | ⟨hunwritten, herror⟩
    · simp [ha] at hr
    · obtain rfl : Fault.mismatch .wrongType = f := Except.error.inj (herror.symm.trans hr)
      exact .unplaced ⟨p, r', hlatest, hkind, hunplaced⟩
    · obtain rfl : Fault.mismatch .badValue = f := Except.error.inj (herror.symm.trans hr)
      exact .unwritten ⟨p, r', hlatest, hkind, hunwritten⟩
  | refused _ hr ha =>
    have hwanting := kindWanting_of_answer hbuild hreads hfile hc hr ha
    rw [Check.refused, hc.stage, hc.entry]
    exact .wanting hwanting (not_kindUnwritten_of_answer hbuild hreads hc hcluster hr)

/-- The first checks of a built stage, where they are passed, leave the token and the site as they were, and
the kinds that they go with are live. -/
theorem passes_kindLive (hbuild : (build World files directory name).result = .ok s)
    (hreads : h.Reads site) {n : Nat} {p : Ran World (Option Fault)} (hcs : cs <+: s.checks n)
    (hp : Passes h subject cs t w p) :
    p.token = t ∧ site p.world = site w ∧ ∀ c ∈ cs, ∀ r, GoesWith c s r →
      KindLive files (.ofText directory) (site w).cluster subject r.kind := by
  have hkinds : ∀ c ∈ cs, ∃ k, c.control = Readiness.control World k := by
    intro c hc
    obtain ⟨file, r, -, hr⟩ := exists_goesWith_of_mem hbuild (hcs.subset hc)
    exact ⟨r.kind, hr.control⟩
  obtain ⟨hcomes, htoken, hsite⟩ := hp.comesTo hreads hkinds
  refine ⟨htoken, hsite, ?_⟩
  intro c hc r hgoes
  have hready : (c.run h subject t w).result = .ok .ready := (hcomes c hc).run hreads
  exact kindLive_of_ready hbuild hreads hgoes hready

end Stage

namespace Stepper
open Readiness (Home IsLive Wanting Lends)
open Stage (Declares Latest KindLive KindWanting Blame)

variable {World : Type} {h : Host World} {site : World → Site} {files : Files.Tree} {directory : String}
  {name : Option String} {stage : Stage World} {s : Stepper World} {subject : Value} {t : Token}
  {w : World}

/-- A step with a stage before it passes the checks of the stage, or it stops at one of them. -/
theorem step_passes_or_stops (h : Host World) (subject : Value) (t : Token) (w : World)
    (hphase : s.phase ≠ .idle) (hcurrent : s.current? = some stage) :
    (∃ p, Passes h subject (stage.checks s.cursor) t w p ∧
      (s.step h subject t w).result = (s.advance, none)) ∨
    ∃ c f, StopsAt h subject (stage.checks s.cursor) t w c f ∧
      (s.step h subject t w).result = (s.block f, some f) := by
  obtain ⟨r, hsweep, ⟨hr, hstep⟩ | ⟨f, hr, hstep⟩⟩ := step_sweep h subject t w hphase hcurrent
  · exact .inl ⟨r, ⟨hsweep, hr⟩, by rw [hstep]⟩
  · rcases hsweep.passes_or_stopsAt with hpasses | ⟨c, f', hf', hstop⟩
    · simp [hpasses.passed] at hr
    · obtain rfl : f' = f := Option.some.inj (hf'.symm.trans hr)
      exact .inr ⟨c, f', hstop, by rw [hstep]⟩

section
variable [Yaml.Reader]

/-- A fault that says that something is not ready comes from an answer of the check. -/
theorem answer_of_notReady (hbuild : (Stage.build World files directory name).result = .ok stage)
    (hreads : h.Reads site) {n : Nat} {c : Check World} (hc : c ∈ stage.checks n)
    {stageName kind : String} {resource : Value}
    (hf : c.Fails h subject t w (.notReady stageName kind resource)) :
    Fault.notReady stageName kind resource = c.refused ∧
      ∃ a, (c.run h subject t w).result = .ok a ∧ a ≠ .ready := by
  generalize hfault : Fault.notReady stageName kind resource = f at hf
  cases hf with
  | cancelled => simp [Check.cancelled] at hfault
  | raised _ hr =>
    obtain ⟨file, r, -, hgoes⟩ := Stage.exists_goesWith_of_mem hbuild hc
    rw [hgoes.run_result hreads] at hr
    obtain ⟨m, hm⟩ := Readiness.checkIn_eq_error hr
    simp [← hfault] at hm
  | refused _ hr ha => exact ⟨rfl, _, hr, ha⟩

/-- The fault of a step names its stage and a manifest in it. The latest manifest of that kind is wanting, and
so is the named manifest if it is the latest itself; otherwise nothing is known of it. -/
theorem step_notReady_names (hbuild : (Stage.build World files directory name).result = .ok stage)
    (hcurrent : s.current? = some stage) (hreads : h.Reads site) {stageName kind : String}
    {resource : Value}
    (hfault : (s.step h subject t w).result.2 = some (.notReady stageName kind resource)) :
    stageName = stage.name ∧ ∃ file r, Declares files (.ofText directory) file r ∧ r.kind.name = kind ∧
      r.name = resource ∧ KindWanting files (.ofText directory) (site w).cluster subject r.kind ∧
      (Latest files (.ofText directory) file r → Wanting (site w).cluster subject r) := by
  have hphase : s.phase ≠ .idle := by
    intro hidle
    simp [step, hidle] at hfault
  rcases step_passes_or_stops h subject t w hphase hcurrent with ⟨p, -, hstep⟩ | ⟨c, f, hstop, hstep⟩
  · simp [hstep] at hfault
  · obtain rfl : f = .notReady stageName kind resource := by simpa [hstep] using hfault
    obtain ⟨before, after, p, hsplit, hpasses, hfails⟩ := hstop.exists_split
    have hbefore : before <+: stage.checks s.cursor := ⟨c :: after, hsplit.symm⟩
    obtain ⟨-, hsite, -⟩ := Stage.passes_kindLive hbuild hreads hbefore hpasses
    obtain ⟨hrefused, a, ha, hne⟩ := answer_of_notReady hbuild hreads hstop.mem hfails
    obtain ⟨file, r, hfile, hgoes, -⟩ := Stage.exists_goesWith hbuild hsplit
    have hwanting := Stage.kindWanting_of_answer hbuild hreads hfile hgoes ha hne
    rw [hsite] at hwanting
    rw [Check.refused, hgoes.stage, hgoes.entry] at hrefused
    obtain ⟨rfl, rfl, rfl⟩ := Fault.notReady.inj hrefused
    refine ⟨rfl, file, r, hfile, rfl, rfl, hwanting, fun hlatest => ?_⟩
    obtain ⟨p', r', hlatest', hkind, hwanting'⟩ := hwanting
    rwa [hlatest.unique hbuild hlatest' hkind] at hwanting'

/-- With a token that never fires and well-typed statuses, a step passes a built stage whose kinds are all
live; or it is stopped at the first manifest, in the order of their paths, whose kind is not. -/
theorem step_cases (hbuild : (Stage.build World files directory name).result = .ok stage)
    (hphase : s.phase ≠ .idle) (hcurrent : s.current? = some stage) (hreads : h.Reads site)
    (hquiet : ∀ v, t.fired (h.now v) = false) (hsubject : ∃ ns, Lends subject ns)
    (hcluster : (site w).cluster.WellTyped) :
    ((s.step h subject t w).result = (s.advance, none) ∧
      ∀ file r, Latest files (.ofText directory) file r → IsLive (site w).cluster subject r) ∨
    ∃ file r f, Declares files (.ofText directory) file r ∧
      (s.step h subject t w).result = (s.block f, some f) ∧
      Blame files (.ofText directory) (site w).cluster subject stage.name r f ∧
      ∀ p r', Declares files (.ofText directory) p r' → p.text < file.text →
        KindLive files (.ofText directory) (site w).cluster subject r'.kind := by
  rcases step_passes_or_stops h subject t w hphase hcurrent with
    ⟨p, hpasses, hstep⟩ | ⟨c, f, hstop, hstep⟩
  · refine .inl ⟨hstep, ?_⟩
    intro file r hlatest
    obtain ⟨-, -, hlive⟩ := Stage.passes_kindLive hbuild hreads List.prefix_rfl hpasses
    obtain ⟨c, hc, hgoes⟩ := hlatest.declares.exists_check hbuild s.cursor
    exact hlive c hc r hgoes file r hlatest rfl
  · obtain ⟨before, after, p, hsplit, hpasses, hfails⟩ := hstop.exists_split
    have hbefore : before <+: stage.checks s.cursor := ⟨c :: after, hsplit.symm⟩
    obtain ⟨htoken, hsite, hlive⟩ := Stage.passes_kindLive hbuild hreads hbefore hpasses
    obtain ⟨file, r, hfile, hgoes, hearlier⟩ := Stage.exists_goesWith hbuild hsplit
    rw [htoken] at hfails
    have hcluster' : (site p.world).cluster.WellTyped := by rwa [hsite]
    have hblame := Stage.blame_of_fails hbuild hreads hfile hgoes hquiet hsubject hcluster' hfails
    rw [hsite] at hblame
    refine .inr ⟨file, r, f, hfile, hstep, hblame, ?_⟩
    intro p' r' hp' hlt
    obtain ⟨d, hd, hgoes'⟩ := hearlier p' r' hp' hlt
    exact hlive d hd r' hgoes'

/-- With a token that never fires, an instance that has a mapping for its metadata, and well-typed statuses,
a step gets past a built stage exactly when the latest manifest of every kind is live. Otherwise it is
blocked at the first manifest, in the order of their paths, whose kind has a latest manifest that is not.
The fault names the first manifest if the latest one is wanting. It is a type error if that one is to be found
in a namespace of the instance that cannot be part of a key, and a value error if what has to be reported of it
cannot be written. -/
theorem step_built_exact (hbuild : (Stage.build World files directory name).result = .ok stage)
    (hphase : s.phase ≠ .idle) (hcurrent : s.current? = some stage) (hreads : h.Reads site)
    (hquiet : ∀ v, t.fired (h.now v) = false) (hsubject : ∃ ns, Lends subject ns)
    (hcluster : (site w).cluster.WellTyped) :
    (s.cursor < (s.step h subject t w).result.1.cursor ↔
      ∀ file r, Latest files (.ofText directory) file r → IsLive (site w).cluster subject r) ∧
    ((¬ ∀ file r, Latest files (.ofText directory) file r → IsLive (site w).cluster subject r) →
      ∃ file r f, Declares files (.ofText directory) file r ∧
        (s.step h subject t w).result = (s.block f, some f) ∧
        Blame files (.ofText directory) (site w).cluster subject stage.name r f ∧
        ∀ p r', Declares files (.ofText directory) p r' → p.text < file.text →
          KindLive files (.ofText directory) (site w).cluster subject r'.kind) := by
  rcases step_cases hbuild hphase hcurrent hreads hquiet hsubject hcluster with ⟨hstep, hall⟩ | hblocked
  · constructor
    · rw [hstep]
      exact iff_of_true (Nat.lt_succ_self _) hall
    · intro hsome
      exact absurd hall hsome
  · have hsome : ¬ ∀ file r, Latest files (.ofText directory) file r →
        IsLive (site w).cluster subject r := by
      obtain ⟨file, r, f, -, -, hblame, -⟩ := hblocked
      intro hall
      exact hblame.not_kindLive fun file' r' hlatest _ => hall file' r' hlatest
    constructor
    · obtain ⟨file, r, f, -, hstep, -⟩ := hblocked
      rw [hstep]
      exact iff_of_false (Nat.lt_irrefl _) hsome
    · intro _
      exact hblocked

end

/-! The stage with two accounts. Both checks look at the second account; the first check, and with it the
fault, goes with the first. -/

/-- A step is blocked by the first check of its stage if that one fails. -/
theorem step_of_first_fails {c : Check World} {rest : List (Check World)} {f : Fault}
    (hphase : s.phase ≠ .idle) (hcurrent : s.current? = some stage)
    (hchecks : stage.checks s.cursor = c :: rest) (hf : c.Fails h subject t w f) :
    (s.step h subject t w).result = (s.block f, some f) := by
  have hfirst : StopsAt h subject (stage.checks s.cursor) t w c f := by
    rw [hchecks]
    exact .here hf
  rcases step_passes_or_stops h subject t w hphase hcurrent with ⟨p, hpasses, -⟩ | ⟨c', f', hstop, hstep⟩
  · exact absurd hpasses hfirst.not_passes
  · obtain ⟨-, rfl⟩ := hfirst.deterministic hstop
    exact hstep

theorem accountStepper_phase (stage : Stage Site) : (accountStepper stage).phase ≠ .idle := by
  rw [accountStepper, restart_phase]
  exact phaseAt_ne_idle 0

/-- A fault of the second account blocks the step, and its not being ready does as that of the first. -/
theorem accounts_blocked {subject : Value} {site : Site} {f : Fault}
    (hf : ∀ b, IsAccount "b" b →
      let x := (Readiness.checkResource .serviceAccount (Site.host 0) subject b .quiet site).result
      x = .error f ∨ x = .ok .notReady ∧ f = .notReady "d" "ServiceAccount" (.str "a")) :
    ∃ stage, (Stage.build Site accountFiles "d" none).result = .ok stage ∧
      (accountStepper stage).current? = some stage ∧
      ((accountStepper stage).step (Site.host 0) subject .quiet site).result =
        ((accountStepper stage).block f, some f) := by
  obtain ⟨a, b, hisa, hisb, hbuild⟩ := accounts_built Site none
  let stage := (Draft.mk [a, b] []).toStage Site "d" "d"
  let first : Check Site := ⟨stage, 0, 0, Readiness.control Site a.kind⟩
  have hbundle : stage.bundle.get .serviceAccount = some b := hisa.bundle hisb .serviceAccount
  have hrun : (first.run (Site.host 0) subject .quiet site).result =
      (Readiness.checkResource .serviceAccount (Site.host 0) subject b .quiet site).result := by
    simp [first, Check.run, Readiness.control, hisa.kind, hbundle]
  have hfails : first.Fails (Site.host 0) subject .quiet site f := by
    rcases hf b hisb with herror | ⟨hanswer, rfl⟩
    · exact .raised rfl (hrun.trans herror)
    · have hrefused : first.refused = .notReady "d" "ServiceAccount" (.str "a") := by
        simp [first, Check.refused, Check.entry, Stage.entry, stage, Draft.toStage, hisa.kind, hisa.name,
          Kind.name]
      have hrefuses := Check.Fails.refused (c := first) (t := .quiet) rfl (hrun.trans hanswer)
        (by decide)
      rwa [hrefused] at hrefuses
  have hcurrent : (accountStepper stage).current? = some stage := rfl
  have hchecks : ∃ rest, stage.checks (accountStepper stage).cursor = first :: rest := ⟨_, rfl⟩
  obtain ⟨rest, hchecks⟩ := hchecks
  exact ⟨stage, hbuild, hcurrent,
    step_of_first_fails (accountStepper_phase stage) hcurrent hchecks hfails⟩

/-- The site, with the first of the accounts live. -/
def firstAccountSite : Site :=
  ⟨Cluster.empty.insert ⟨[.str "ServiceAccount"], some [.str "nfd"], [.str "a"]⟩
    (.map false [(.str "kind", .str "ServiceAccount"),
      (.str "metadata", .map false [(.str "name", .str "a"), (.str "namespace", .str "nfd")])]),
    accountFiles⟩

theorem IsAccount.unready {r : Resource} (hr : IsAccount "b" r) :
    (Readiness.checkResource .serviceAccount (Site.host 0) accountInstance r .quiet firstAccountSite).result =
      .ok .notReady := by
  have hget : firstAccountSite.cluster.get ⟨.str "ServiceAccount", .str "b", .str "nfd"⟩ =
      .error (.notFound (.str "ServiceAccount") (.str "b") (.str "nfd")) := rfl
  simp [Readiness.checkResource, hr.lookup, Host.fetch, Site.host, hget, Readiness.judgeFetched, hr.name,
    Value.isWritable]

theorem IsAccount.live {r : Resource} (hr : IsAccount "a" r) :
    IsLive firstAccountSite.cluster accountInstance r := by
  obtain ⟨ns, hhome, hplace⟩ := Readiness.lookupFor_eq_ok.mp hr.lookup
  obtain ⟨live, hlive⟩ : ∃ live, firstAccountSite.cluster.get
      ⟨.str "ServiceAccount", .str "a", .str "nfd"⟩ = .ok live := ⟨_, rfl⟩
  rw [hplace] at hlive
  refine ⟨ns, live, hhome, hlive, .present ?_⟩
  simp [hr.kind, Readiness.HasRule]

theorem first_account_blamed :
    ∃ stage, (Stage.build Site accountFiles "d" none).result = .ok stage ∧
      (accountStepper stage).current? = some stage ∧
      ((accountStepper stage).step (Site.host 0) accountInstance .quiet firstAccountSite).result =
        ((accountStepper stage).block (.notReady "d" "ServiceAccount" (.str "a")),
          some (.notReady "d" "ServiceAccount" (.str "a"))) :=
  accounts_blocked fun _ hb => .inr ⟨hb.unready, rfl⟩

/-- An instance whose namespace is a list. -/
def listedInstance : Value :=
  .map false [(.str "metadata", .map false [(.str "namespace", .list [.str "nfd"])])]

theorem IsAccount.unplaced {r : Resource} (hr : IsAccount "b" r) :
    (Readiness.checkResource .serviceAccount (Site.host 0) listedInstance r .quiet firstAccountSite).result =
      .error (.mismatch .wrongType) := by
  have hshared : Lends listedInstance (.list [.str "nfd"]) :=
    Readiness.instanceNamespace_eq_ok.mp rfl
  have hhome := Home.shared (by rw [hr.kind]; rfl) hr.homeless hshared
  have hl := Readiness.lookupFor_eq_ok.mpr ⟨_, hhome, rfl⟩
  have hkey : (Lookup.mk (.str r.kind.name) r.name (.list [.str "nfd"])).key? = none := by
    simp [Lookup.key?, hr.name, Value.key?, Value.isPresent]
  simp [Readiness.checkResource, hl, Host.fetch, Site.host, Cluster.get_of_not_key hkey,
    Readiness.judgeFetched]

/-- The only live object is an account, of which no rule reads the status. -/
theorem firstAccountSite_wellTyped : firstAccountSite.cluster.WellTyped := by
  intro k name ns live hget
  obtain ⟨key, hkey, hfound⟩ := Cluster.get_eq_ok.mp hget
  obtain ⟨hkind, -, -⟩ := Lookup.key?_eq_some.mp hkey
  rcases Cluster.find?_insert _ hfound with ⟨rfl, -⟩ | hempty
  · have hk : k = .serviceAccount := by
      cases k <;> simp [Kind.name, Value.key?] at hkind ⊢
    rw [hk]
    trivial
  · simp [Cluster.empty, Cluster.find?] at hempty

/-- The fault names the first account, and what is wanting is the second. -/
theorem first_account_named :
    ∃ stage, (Stage.build Site accountFiles "d" none).result = .ok stage ∧
      (accountStepper stage).current? = some stage ∧
      ((accountStepper stage).step (Site.host 0) accountInstance .quiet firstAccountSite).result.2 =
        some (.notReady "d" "ServiceAccount" (.str "a")) ∧
      ∃ file r, Declares accountFiles (.ofText "d") file r ∧ r.kind.name = "ServiceAccount" ∧
        r.name = .str "a" ∧
        KindWanting accountFiles (.ofText "d") firstAccountSite.cluster accountInstance r.kind := by
  obtain ⟨stage, hbuild, hcurrent, hstep⟩ := first_account_blamed
  have hfault : ((accountStepper stage).step (Site.host 0) accountInstance .quiet
      firstAccountSite).result.2 = some (.notReady "d" "ServiceAccount" (.str "a")) := by rw [hstep]
  obtain ⟨-, file, r, hfile, hkind, hname, hwanting, -⟩ :=
    step_notReady_names hbuild hcurrent (Site.host_reads 0) hfault
  exact ⟨stage, hbuild, hcurrent, hfault, file, r, hfile, hkind, hname, hwanting⟩

/-- The account that the fault names is live, and no manifest of its kind and name is wanting. -/
theorem live_account_blamed :
    ∃ stage, (Stage.build Site accountFiles "d" none).result = .ok stage ∧
      (accountStepper stage).current? = some stage ∧
      ((accountStepper stage).step (Site.host 0) accountInstance .quiet firstAccountSite).result.2 =
        some (.notReady "d" "ServiceAccount" (.str "a")) ∧
      ∀ file r, Declares accountFiles (.ofText "d") file r → r.kind.name = "ServiceAccount" →
        r.name = .str "a" → IsLive firstAccountSite.cluster accountInstance r ∧
          ¬ Wanting firstAccountSite.cluster accountInstance r := by
  obtain ⟨stage, hbuild, hcurrent, hstep⟩ := first_account_blamed
  refine ⟨stage, hbuild, hcurrent, by rw [hstep], ?_⟩
  intro file r hfile _ hname
  obtain ⟨hmem, hrecognized⟩ := (Stage.declares_iff accounts_found).mp hfile
  obtain ⟨slot, hdecoded⟩ := Stage.recognized?_eq_some.mp hrecognized
  have hisa : IsAccount "a" r := by
    simp only [List.mem_cons, List.not_mem_nil, or_false] at hmem
    rcases hmem with rfl | rfl
    · obtain ⟨_, r', hr', hisa⟩ := account_recognized (.inl rfl)
      cases hdecoded.symm.trans hr'
      exact hisa
    · obtain ⟨_, r', hr', hisb⟩ := account_recognized (.inr rfl)
      cases hdecoded.symm.trans hr'
      simp [hisb.name] at hname
  exact ⟨hisa.live, fun hwanting => hwanting.not_isLive hisa.live⟩

/-- The stage is held up, as its latest account is wanting. -/
theorem first_account_exact :
    ∃ stage, (Stage.build Site accountFiles "d" none).result = .ok stage ∧
      (accountStepper stage).phase ≠ .idle ∧ (accountStepper stage).current? = some stage ∧
      (Site.host 0).Reads id ∧ (∀ v, Token.quiet.fired ((Site.host 0).now v) = false) ∧
      (∃ ns, Lends accountInstance ns) ∧ firstAccountSite.cluster.WellTyped ∧
      (¬ ∀ file r, Latest accountFiles (.ofText "d") file r →
        IsLive firstAccountSite.cluster accountInstance r) ∧
      ∃ file r f, Declares accountFiles (.ofText "d") file r ∧
        ((accountStepper stage).step (Site.host 0) accountInstance .quiet firstAccountSite).result =
          ((accountStepper stage).block f, some f) ∧
        Blame accountFiles (.ofText "d") firstAccountSite.cluster accountInstance stage.name r f := by
  obtain ⟨stage, hbuild, hcurrent, hstep⟩ := first_account_blamed
  have hphase := accountStepper_phase stage
  have hquiet : ∀ v, Token.quiet.fired ((Site.host 0).now v) = false := fun _ => rfl
  have hsubject : ∃ ns, Lends accountInstance ns := ⟨_, .stated rfl rfl⟩
  obtain ⟨hadvance, hblocked⟩ := step_built_exact hbuild hphase hcurrent (Site.host_reads 0) hquiet
    hsubject (w := firstAccountSite) firstAccountSite_wellTyped
  have hsome : ¬ ∀ file r, Latest accountFiles (.ofText "d") file r →
      IsLive firstAccountSite.cluster accountInstance r := by
    intro hall
    have hlt := hadvance.mpr hall
    rw [hstep] at hlt
    exact Nat.lt_irrefl _ hlt
  obtain ⟨file, r, f, hfile, hresult, hblame, -⟩ := hblocked hsome
  exact ⟨stage, hbuild, hphase, hcurrent, Site.host_reads 0, hquiet, hsubject,
    firstAccountSite_wellTyped, hsome, file, r, f, hfile, hresult, hblame⟩

/-- Where the namespace of the instance is no key, the step ends in a mismatch, whatever is live. -/
theorem listed_namespace_raises :
    ∃ stage, (Stage.build Site accountFiles "d" none).result = .ok stage ∧
      (accountStepper stage).phase ≠ .idle ∧ (accountStepper stage).current? = some stage ∧
      (∃ es fields, listedInstance.entries? = some es ∧ (es.get "metadata").entries? = some fields) ∧
      firstAccountSite.cluster.WellTyped ∧
      ((accountStepper stage).step (Site.host 0) listedInstance .quiet firstAccountSite).result =
        ((accountStepper stage).block (.mismatch .wrongType), some (.mismatch .wrongType)) := by
  obtain ⟨stage, hbuild, hcurrent, hstep⟩ := accounts_blocked fun _ hb => .inl hb.unplaced
  exact ⟨stage, hbuild, accountStepper_phase stage, hcurrent, ⟨_, _, rfl, rfl⟩,
    firstAccountSite_wellTyped, hstep⟩

end Stepper
end StageGate
