import StageGate.Proofs.BuiltStages
import StageGate.Proofs.ReadinessRules
import StageGate.Proofs.Stepping
import StageGate.Reconcile.Site

/-!
Soundness of convergence: when a built stage is passed, the last manifest of each kind has a live
counterpart that meets the rule of the kind. Earlier manifests of the kind are replaced in the bundle,
and nothing is known of their counterparts.
-/

namespace StageGate

/-- In the worlds that can be reached, look-ups are answered by one cluster. -/
def Host.Serves {World : Type} (h : Host World) (cluster : Cluster) (reached : World → Prop) : Prop :=
  ∀ l t w, reached w → (h.get l t w).1 = cluster.get l ∧ reached (h.get l t w).2.2

theorem Site.host_serves (now : Rat) (site : Site) :
    (Site.host now).Serves site.cluster (· = site) := by
  rintro l t w rfl
  exact ⟨rfl, rfl⟩

namespace Stepper
open Readiness (Home Meets)

variable {World : Type} {h : Host World} {cluster : Cluster} {reached : World → Prop}
  {subject : Value} {stage : Stage World} {s : Stepper World} {t : Token} {w : World}

/-- Once a step has passed a stage of controls of kinds, each of them finds its kind ready. -/
theorem ready_of_advance (hcurrent : s.current? = some stage)
    (hkinds : ∀ c ∈ stage.controls, ∃ k, c = Readiness.control World k)
    (hserves : h.Serves cluster reached) (hw : reached w)
    (hadvance : s.cursor < (s.step h subject t w).result.1.cursor) {k : Kind}
    (hk : Readiness.control World k ∈ stage.controls) :
    ∃ r, stage.bundle.get k = some r ∧ ∃ ns live, Home subject r ns ∧
      cluster.get ⟨.str r.kind.name, r.name, ns⟩ = .ok live ∧ Meets k live := by
  obtain ⟨-, swept, hsweep, hpassed⟩ := (step_advance_iff hcurrent).mp hadvance
  have hkeep : ∀ c ∈ stage.checks s.cursor, ∀ (t : Token) (w : World), reached w →
      reached (c.run h subject t w).world := by
    intro c hc t w hw
    obtain ⟨-, hmem⟩ := Stage.mem_checks hc
    obtain ⟨k, hcontrol⟩ := hkinds c.control hmem
    unfold Check.run
    rw [hcontrol]
    rcases Readiness.control_world k h subject c.stage.bundle t w with heq | ⟨l, heq⟩
    · rwa [heq]
    · rw [heq]
      exact (hserves l t w hw).2
  obtain ⟨c, hc, hcontrol⟩ := Stage.exists_check s.cursor hk
  have hall := hsweep.all_ready (fun _ => reached) hpassed hw hkeep
  obtain ⟨t', w', hw', hready⟩ := hall.1 c hc
  obtain ⟨hstage, -⟩ := Stage.mem_checks hc
  unfold Check.run at hready
  rw [hcontrol, hstage, Readiness.control_ready] at hready
  obtain ⟨r, hr, ns, live, hhome, hget, hmeets⟩ := hready
  rw [(hserves _ t' w' hw').1] at hget
  exact ⟨r, hr, ns, live, hhome, hget, hmeets⟩

/-! A site whose stage has two accounts, of which only the second is live. -/

def accountFile (name : String) : Files.Entry :=
  .file ("apiVersion: v1\nkind: ServiceAccount\nmetadata:\n  name: " ++ name).toUTF8.toList false

def accountFiles : Files.Tree :=
  ⟨.directory [("d", .directory [("a", accountFile "a"), ("b", accountFile "b")] .full)] .full, []⟩

def accountInstance : Value :=
  .map false [(.str "metadata", .map false [(.str "namespace", .str "nfd")])]

def accountSite : Site :=
  ⟨Cluster.empty.insert ⟨[.str "ServiceAccount"], some [.str "nfd"], [.str "b"]⟩
    (.map false [(.str "kind", .str "ServiceAccount")]), accountFiles⟩

/-- A stepper before a single stage. -/
def accountStepper (stage : Stage Site) : Stepper Site :=
  (Stepper.new none).restart accountInstance [stage]

theorem accounts_found :
    Files.discover accountFiles (.ofText "d") = .ok [["a"], ["b"]] := by
  have hfind : accountFiles.find (Files.Path.ofText "d").text =
      .ok (.directory [("a", accountFile "a"), ("b", accountFile "b")] .full) := rfl
  exact Files.discover_of_sorted hfind rfl (by decide)

/-- The facts about an account manifest that its readiness depends on. -/
structure IsAccount (name : String) (r : Resource) : Prop where
  kind : r.kind = .serviceAccount
  name : r.name = .str name
  homeless : r.metadata.namespaceName.isPresent = false

/-- Whether a file declares such an account. -/
def isAccount (name : String) : Manifest.Decoded → Bool
  | .recognized _ r => r.kind == .serviceAccount && Readiness.isText name r.name &&
      !r.metadata.namespaceName.isPresent
  | .unrecognized _ => false

theorem account_recognized {name : String} (hname : name = "a" ∨ name = "b") :
    ∃ slot r, Stage.decodeFile accountFiles (Files.filePath (.ofText "d") [name]) =
      .ok (.recognized slot r) ∧ IsAccount name r := by
  have hdecoded : (Stage.decodeFile accountFiles
      (Files.filePath (.ofText "d") [name])).toOption.any (isAccount name) = true := by
    rcases hname with rfl | rfl
    · decide +kernel
    · decide +kernel
  cases hd : Stage.decodeFile accountFiles (Files.filePath (.ofText "d") [name]) with
  | error f => simp [hd, Except.toOption] at hdecoded
  | ok decoded =>
    cases decoded with
    | unrecognized kind => simp [hd, Except.toOption, isAccount] at hdecoded
    | recognized slot r =>
      simp only [hd, Except.toOption, Option.any_some, isAccount, Bool.and_eq_true, beq_iff_eq,
        Readiness.isText_iff, Bool.not_eq_true'] at hdecoded
      exact ⟨slot, r, rfl, hdecoded.1.1, hdecoded.1.2, hdecoded.2⟩

theorem account_declared {name slot : String} {r : Resource} (hname : name = "a" ∨ name = "b")
    (hr : Stage.decodeFile accountFiles (Files.filePath (.ofText "d") [name]) =
      .ok (.recognized slot r)) :
    Stage.Declares accountFiles (.ofText "d") [name] r := by
  rw [Stage.declares_iff accounts_found, Stage.recognized?_eq_some]
  rcases hname with rfl | rfl
  · exact ⟨by simp, slot, hr⟩
  · exact ⟨by simp, slot, hr⟩

theorem IsAccount.lookup {name : String} {r : Resource} (hr : IsAccount name r) :
    Readiness.lookupFor accountInstance r =
      .ok ⟨.str "ServiceAccount", .str name, .str "nfd"⟩ := by
  have hshared : Readiness.Lends accountInstance (.str "nfd") := Readiness.instanceNamespace_eq_ok.mp rfl
  have hhome := Home.shared (by rw [hr.kind]; rfl) hr.homeless hshared
  rw [Readiness.lookupFor_eq_ok]
  exact ⟨_, hhome, by rw [hr.kind, hr.name]; rfl⟩

theorem IsAccount.ready {r : Resource} (hr : IsAccount "b" r) :
    Readiness.checkResource .serviceAccount (Site.host 0) accountInstance r .quiet accountSite =
      ⟨.ok .ready, .quiet, accountSite, [.lookup ⟨.str "ServiceAccount", .str "b", .str "nfd"⟩]⟩ := by
  have hget : accountSite.cluster.get ⟨.str "ServiceAccount", .str "b", .str "nfd"⟩ =
      .ok (.map false [(.str "kind", .str "ServiceAccount")]) := rfl
  simp [Readiness.checkResource, hr.lookup, Host.fetch, Site.host, hget, Readiness.judgeFetched,
    Readiness.judge]

theorem accounts_built (World : Type) (name : Option String) :
    ∃ a b, IsAccount "a" a ∧ IsAccount "b" b ∧
      (Stage.build World accountFiles "d" name).result =
        .ok ((Draft.mk [a, b] []).toStage World (Stage.nameFor name (.ofText "d")) "d") := by
  obtain ⟨_, a, ha, hisa⟩ := account_recognized (.inl rfl)
  obtain ⟨_, b, hb, hisb⟩ := account_recognized (.inr rfl)
  have hadded : (Stage.addFiles (Stage.nameFor name (.ofText "d")) (.ofText "d")
      (Stage.decodeFile accountFiles) .empty [["a"], ["b"]]).result = .ok ⟨[a, b], []⟩ :=
    Stage.addFiles_cons_ok.mpr ⟨_, ha, Stage.addFiles_cons_ok.mpr ⟨_, hb, rfl⟩⟩
  exact ⟨a, b, hisa, hisb, Stage.build_eq_ok.mpr ⟨_, _, accounts_found, hadded, rfl⟩⟩

theorem IsAccount.bundle {a b : Resource} (hisa : IsAccount "a" a) (hisb : IsAccount "b" b) (k : Kind) :
    (Draft.mk [a, b] []).bundle.get k = if k = .serviceAccount then some b else none := by
  by_cases hk : k = .serviceAccount
  · simp [Draft.bundle, Bundle.put, hisb.kind, hk]
  · simp [Draft.bundle, Bundle.put, hisa.kind, hisb.kind, hk, Bundle.empty]

theorem accounts_pass :
    ∃ stage, (Stage.build Site accountFiles "d" none).result = .ok stage ∧
      (accountStepper stage).current? = some stage ∧
      (accountStepper stage).cursor <
        ((accountStepper stage).step (Site.host 0) accountInstance .quiet accountSite).result.1.cursor := by
  obtain ⟨a, b, hisa, hisb, hbuild⟩ := accounts_built Site none
  let stage := (Draft.mk [a, b] []).toStage Site "d" "d"
  have hbundle : stage.bundle.get .serviceAccount = some b := hisa.bundle hisb .serviceAccount
  have hready : ∀ c ∈ stage.checks 0, c.run (Site.host 0) accountInstance .quiet accountSite =
      Readiness.checkResource .serviceAccount (Site.host 0) accountInstance b .quiet accountSite := by
    intro c hc
    obtain ⟨hstage, hcontrol⟩ := Stage.mem_checks hc
    have hkind : c.control = Readiness.control Site .serviceAccount := by
      simpa [stage, Draft.toStage, hisa.kind, hisb.kind] using hcontrol
    simp [Check.run, hkind, hstage, Readiness.control, hbundle]
  have hcurrent : (accountStepper stage).current? = some stage := rfl
  have hphase : (accountStepper stage).phase ≠ .idle := by
    rw [accountStepper, restart_phase]
    exact phaseAt_ne_idle 0
  refine ⟨stage, hbuild, hcurrent, ?_⟩
  refine (step_advance_iff hcurrent).mpr ⟨hphase, ?_⟩
  refine Sweep.exists_passed (fun t w => t = .quiet ∧ w = accountSite) ⟨rfl, rfl⟩ ?_ ?_
  · rintro _ _ ⟨rfl, rfl⟩
    rfl
  · rintro c hc _ _ ⟨rfl, rfl⟩
    rw [hready c hc, hisb.ready]
    exact ⟨rfl, rfl, rfl⟩

/-- If a step passes a built stage, then for the last manifest of each kind in the order of paths a
live object exists under its kind, its name, and its namespace, and meets the rule of the kind. -/
theorem step_advance_sound [Yaml.Reader] {files : Files.Tree} {directory : String} {name : Option String}
    (hbuild : (Stage.build World files directory name).result = .ok stage)
    (hcurrent : s.current? = some stage) (hserves : h.Serves cluster reached) (hw : reached w)
    (hadvance : s.cursor < (s.step h subject t w).result.1.cursor)
    {file : Files.RelativePath} {r : Resource}
    (hfile : Stage.Declares files (.ofText directory) file r)
    (hlatest : ∀ p r', Stage.Declares files (.ofText directory) p r' → r'.kind = r.kind →
      p.text ≤ file.text) :
    ∃ ns live, Home subject r ns ∧ cluster.get ⟨.str r.kind.name, r.name, ns⟩ = .ok live ∧
      Meets r.kind live := by
  obtain ⟨hcontrol, hbundle⟩ := Stage.build_declares hbuild hfile hlatest
  obtain ⟨r', hr', hlive⟩ := ready_of_advance hcurrent (Stage.build_controls hbuild) hserves hw
    hadvance hcontrol
  rw [hbundle] at hr'
  cases hr'
  exact hlive

/-- Of two accounts the second is checked, so it is live once the stage is passed. -/
theorem second_account_sound :
    ∃ stage r, (Stage.build Site accountFiles "d" none).result = .ok stage ∧
      (accountStepper stage).current? = some stage ∧
      (Site.host 0).Serves accountSite.cluster (· = accountSite) ∧
      (accountStepper stage).cursor <
        ((accountStepper stage).step (Site.host 0) accountInstance .quiet accountSite).result.1.cursor ∧
      Stage.Declares accountFiles (.ofText "d") ["b"] r ∧
      (∀ p r', Stage.Declares accountFiles (.ofText "d") p r' → r'.kind = r.kind →
        p.text ≤ Files.RelativePath.text ["b"]) ∧
      ∃ ns live, Home accountInstance r ns ∧
        accountSite.cluster.get ⟨.str r.kind.name, r.name, ns⟩ = .ok live ∧ Meets r.kind live := by
  obtain ⟨stage, hbuild, hcurrent, hadvance⟩ := accounts_pass
  obtain ⟨_, r, hr, -⟩ := account_recognized (.inr rfl)
  have hfile := account_declared (.inr rfl) hr
  have hlatest : ∀ p r', Stage.Declares accountFiles (.ofText "d") p r' → r'.kind = r.kind →
      p.text ≤ Files.RelativePath.text ["b"] := by
    intro p r' hp _
    obtain ⟨hmem, -⟩ := (Stage.declares_iff accounts_found).mp hp
    simp only [List.mem_cons, List.not_mem_nil, or_false] at hmem
    rcases hmem with rfl | rfl
    · decide
    · decide
  exact ⟨stage, r, hbuild, hcurrent, Site.host_serves 0 accountSite, hadvance, hfile, hlatest,
    step_advance_sound hbuild hcurrent (Site.host_serves 0 accountSite) rfl hadvance hfile hlatest⟩

/-- The first account is replaced in the bundle: the stage is passed although it is not live. -/
theorem first_account_unchecked :
    ∃ stage r, (Stage.build Site accountFiles "d" none).result = .ok stage ∧
      (accountStepper stage).current? = some stage ∧
      (accountStepper stage).cursor <
        ((accountStepper stage).step (Site.host 0) accountInstance .quiet accountSite).result.1.cursor ∧
      Stage.Declares accountFiles (.ofText "d") ["a"] r ∧
      ¬ ∃ ns live, Home accountInstance r ns ∧
        accountSite.cluster.get ⟨.str r.kind.name, r.name, ns⟩ = .ok live ∧ Meets r.kind live := by
  obtain ⟨stage, hbuild, hcurrent, hadvance⟩ := accounts_pass
  obtain ⟨_, r, hr, hisa⟩ := account_recognized (.inl rfl)
  refine ⟨stage, r, hbuild, hcurrent, hadvance, account_declared (.inl rfl) hr, ?_⟩
  rintro ⟨ns, live, hhome, hget, -⟩
  have hlookup := hisa.lookup.symm.trans (Readiness.lookupFor_eq_ok.mpr ⟨ns, hhome, rfl⟩)
  rw [← Except.ok.inj hlookup] at hget
  have hmissing : accountSite.cluster.get ⟨.str "ServiceAccount", .str "a", .str "nfd"⟩ =
      .error (.notFound (.str "ServiceAccount") (.str "a") (.str "nfd")) := rfl
  simp [hmissing] at hget

end Stepper
end StageGate
