import StageGate.Proofs.RegistryHistory
import StageGate.Proofs.RelatedRuns
import StageGate.Proofs.StageLoading

/-!
Stages are loaded once. The main result says what calls for the stages come to, and that changes of the
files after the first load that succeeds are seen by no reconcile: two runs that differ in nothing else
give the same answers.
-/

namespace StageGate

/-- Results that are the same, but for what the worlds at their ends hold beside `outside`. -/
structure Ran.Agree {World Outside Result : Type} (outside : World → Outside) (a b : Ran World Result) :
    Prop where
  result : a.result = b.result
  token : a.token = b.token
  outside : outside a.world = outside b.world
  effects : a.effects = b.effects

/-- Two hosts whose clocks and look-ups depend on no more of a world than `outside` shows, and on that
in the same way. What else is in a world they may change as they like. -/
structure Host.Agree {World Outside : Type} (outside : World → Outside) (h h' : Host World) : Prop where
  now : ∀ {w w'}, outside w = outside w' → h.now w = h'.now w'
  fetch : ∀ l t {w w'}, outside w = outside w' → (h.fetch l t w).Agree outside (h'.fetch l t w')

/-- The control learns of a world no more than its host does. -/
def Control.Sees {World Outside : Type} (c : Control World) (outside : World → Outside) : Prop :=
  ∀ h h' : Host World, Host.Agree outside h h' → ∀ subject b t {w w'}, outside w = outside w' →
    (c.run h subject b t w).Agree outside (c.run h' subject b t w')

variable {World Outside : Type} {outside : World → Outside} {h h' : Host World} {subject : Value}
  {t : Token} {w w' : World}

theorem Ran.Agree.exists_eq {Result : Type} {a b : Ran World Result} (hab : a.Agree outside b) :
    ∃ result token w₁ w₂ effects, a = ⟨result, token, w₁, effects⟩ ∧
      b = ⟨result, token, w₂, effects⟩ ∧ outside w₁ = outside w₂ := by
  obtain ⟨result, token, w₁, effects⟩ := a
  obtain ⟨_, _, w₂, _⟩ := b
  obtain ⟨rfl, rfl, hw, rfl⟩ := hab
  exact ⟨result, token, w₁, w₂, effects, rfl, rfl, hw⟩

theorem Ran.agree_iff_match {Result : Type} {a b : Ran World Result} :
    a.Agree outside b ↔ a.Match (fun _ w w' => outside w = outside w') b :=
  ⟨fun hab => ⟨hab.result, hab.token, hab.effects, hab.outside⟩,
    fun hab => ⟨hab.result, hab.token, hab.related, hab.effects⟩⟩

namespace Readiness

theorem checkResource_agree (k : Kind) (hh : Host.Agree outside h h') (r : Resource)
    (hw : outside w = outside w') :
    (checkResource k h subject r t w).Agree outside (checkResource k h' subject r t w') := by
  unfold checkResource
  cases lookupFor subject r with
  | error m => exact ⟨rfl, rfl, hw, rfl⟩
  | ok l =>
    obtain ⟨result, t', w₁, w₂, es, ha, hb, hw'⟩ := (hh.fetch l t hw).exists_eq
    simp only [ha, hb]
    exact ⟨rfl, rfl, hw', rfl⟩

theorem control_sees (k : Kind) : (control World k).Sees outside := by
  intro h h' hh subject b t w w' hw
  unfold control
  cases hr : b.get k with
  | none => simpa only [hr] using ⟨rfl, rfl, hw, rfl⟩
  | some r => simpa only [hr] using checkResource_agree k hh r hw

end Readiness

namespace Reconciler
variable {settings : Settings World} {r : Reconciler World} {i : Identity} {ss : List (Stage World)}

/-- All controls of the stages that a catalog may come to have see `outside` alone. -/
def LoadsSeeing (settings : Settings World) (outside : World → Outside) : Prop :=
  ∀ w ss, (settings.source w).result = .ok ss →
    ∀ stage ∈ ss, ∀ c ∈ stage.controls, c.Sees outside

theorem Coherent.reconcileWith_agree (hr : Coherent settings r) (hsee : LoadsSeeing settings outside)
    (hh : Host.Agree outside h h')
    (hl : ∀ l t, r.catalog.stages settings.source (h.fetch l t w).world =
      r.catalog.stages settings.source (h'.fetch l t w').world)
    (hw : outside w = outside w') :
    (r.reconcileWith settings h i t w).Agree outside (r.reconcileWith settings h' i t w') := by
  have hfires : h.FireAlike (fun _ w w' => outside w = outside w') h' := by
    intro t w w' hw
    rw [hh.now hw]
  have hfetch := Ran.agree_iff_match.mp (hh.fetch (instanceLookup settings i) t hw)
  refine Ran.agree_iff_match.mpr (hr.reconcileWith_match hfires hfetch (hl _ _) ?_ hw)
  intro subject ss _ hss stage hstage c hc t w w' hw
  obtain ⟨v, hv⟩ := hr.exists_source hss
  exact Ran.agree_iff_match.mp (hsee v ss hv stage hstage c hc h h' hh subject stage.bundle t hw)

/-- The two requests differ in nothing that `outside` shows. -/
structure Request.Agree (outside : World → Outside) (q q' : Request World) : Prop where
  host : Host.Agree outside q.host q'.host
  identity : q.identity = q'.identity
  token : q.token = q'.token
  world : outside q.world = outside q'.world

variable {q q' : Request World}

theorem Coherent.answer_agree (hr : Coherent settings r) (hsee : LoadsSeeing settings outside)
    (hq : q.Agree outside q')
    (hl : ∀ l t, r.catalog.stages settings.source (q.host.fetch l t q.world).world =
      r.catalog.stages settings.source (q'.host.fetch l t q'.world).world) :
    (r.answer settings q).Agree outside (r.answer settings q') := by
  unfold answer
  rw [reconcile_eq, reconcile_eq, ← hq.identity, ← hq.token, hq.host.now hq.world]
  cases tokenFor settings (q'.host.now q'.world) q.token with
  | error m => exact ⟨rfl, rfl, hq.world, rfl⟩
  | ok t => exact hr.reconcileWith_agree hsee hq.host hl hq.world

/-- Once the instance has been looked up, both requests find the same files. -/
def Request.SameFiles (files : World → Files.Tree) (q q' : Request World) : Prop :=
  ∀ l t, files (q.host.fetch l t q.world).world = files (q'.host.fetch l t q'.world).world

/-- The answers to requests that come one after another. -/
def answers (settings : Settings World) : Reconciler World → List (Request World) →
    List (Reconciled World)
  | _, [] => []
  | r, q :: qs => r.answer settings q :: answers settings (r.serve settings q) qs

theorem Coherent.serve (hr : Coherent settings r) (q : Request World) :
    Coherent settings (r.serve settings q) :=
  hr.change (reconcile_change settings q.host r q.identity q.token q.world)

theorem serve_kept (hk : r.catalog.kept = some ss) (q : Request World) :
    (r.serve settings q).catalog.kept = some ss := by
  have hchange : Change settings r q.identity (r.serve settings q) :=
    reconcile_change settings q.host r q.identity q.token q.world
  generalize r.serve settings q = r' at hchange ⊢
  cases hchange with
  | unchanged => exact hk
  | forgotten => exact hk
  | stepped => simpa only [Catalog.stages_of_kept hk] using hk

/-- With the stages kept, the files play no part. -/
theorem Coherent.answers_agree_of_kept {qs qs' : List (Request World)} (hr : Coherent settings r)
    (hsee : LoadsSeeing settings outside) (hk : r.catalog.kept = some ss)
    (hqs : List.Forall₂ (Request.Agree outside) qs qs') :
    List.Forall₂ (Ran.Agree outside) (answers settings r qs) (answers settings r qs') := by
  induction hqs generalizing r with
  | nil => exact .nil
  | @cons q q' qs qs' hq _ ih =>
    have hl (l : Lookup) (t : Token) :
        r.catalog.stages settings.source (q.host.fetch l t q.world).world =
          r.catalog.stages settings.source (q'.host.fetch l t q'.world).world := by
      rw [Catalog.stages_of_kept hk, Catalog.stages_of_kept hk]
    have hanswer := hr.answer_agree hsee hq hl
    have hserve : r.serve settings q = r.serve settings q' := congrArg Prod.fst hanswer.result
    have hrest := ih (hr.serve q) (serve_kept hk q)
    exact .cons hanswer (hserve ▸ hrest)

theorem Coherent.answers_agree {files : World → Files.Tree} {before before' after after'}
    (hr : Coherent settings r) (hsee : LoadsSeeing settings outside)
    (hfiles : ∀ v v', files v = files v' → settings.source v = settings.source v')
    (hbefore : List.Forall₂ (fun q q' => q.Agree outside q' ∧ q.SameFiles files q') before before')
    (hk : (before.foldl (Reconciler.serve settings) r).catalog.isLoaded = true)
    (hafter : List.Forall₂ (Request.Agree outside) after after') :
    List.Forall₂ (Ran.Agree outside) (answers settings r (before ++ after))
      (answers settings r (before' ++ after')) := by
  -- Up to the load both runs find the same files, so that they leave one reconciler; after it they
  -- keep its stages.
  induction hbefore generalizing r with
  | nil =>
    obtain ⟨ss, hk⟩ := Option.isSome_iff_exists.mp hk
    exact hr.answers_agree_of_kept hsee hk hafter
  | @cons q q' before before' hq _ ih =>
    have hl (l : Lookup) (t : Token) :
        r.catalog.stages settings.source (q.host.fetch l t q.world).world =
          r.catalog.stages settings.source (q'.host.fetch l t q'.world).world := by
      rw [Catalog.stages, Catalog.stages, hfiles _ _ (hq.2 l t)]
    have hanswer := hr.answer_agree hsee hq.1 hl
    have hserve : r.serve settings q = r.serve settings q' := congrArg Prod.fst hanswer.result
    have hrest := ih (hr.serve q) hk
    exact .cons hanswer (hserve ▸ hrest)

theorem ofDirectories_loadsSeeing [Yaml.Reader] {files : World → Files.Tree}
    {directories : List (String × String)}
    (hsource : settings.source = .ofDirectories files directories) : LoadsSeeing settings outside := by
  intro w ss hl stage hstage c hc
  rw [hsource, StageSource.ofDirectories_eq_ok] at hl
  obtain ⟨k, rfl⟩ := hl.controls hstage c hc
  exact Readiness.control_sees k

/-- As long as not all directories can be built, a call for the stages fails with the fault of the first
that cannot, and nothing is kept; the first call that finds all of them built gives one stage for each
directory, in order, and every later call gives the same stages. Two runs of a reconciler that differ
only in the files, and in these only after the stages are loaded, have the same answers: the outcomes,
the steppers and the effects, so the look-ups in their order. -/
theorem stages_loaded_once [Yaml.Reader] (files : World → Files.Tree) (outside : World → Outside)
    (directories : List (String × String)) (instanceKind : String) (timeout : Value) :
    let source : StageSource World := .ofDirectories files directories
    let settings : Settings World := ⟨source, instanceKind, timeout⟩
    (∀ (earlier : List World) (w : World),
      (∀ v ∈ earlier, ¬ ∃ ss : List (Stage World), Stage.AllBuilt (files v) directories ss) →
      let called := (Catalog.empty.called source earlier).stages source w
      ((¬ ∃ ss : List (Stage World), Stage.AllBuilt (files w) directories ss) →
        ∃ f, FirstError (Stage.built World (files w)) directories f ∧
          called.2.result = .error f ∧ called.1.isLoaded = false ∧ called.1 = .empty) ∧
      ∀ ss, Stage.AllBuilt (files w) directories ss →
        called.2.result = .ok ss ∧ called.1.isLoaded = true ∧
          ∀ later v, (called.1.called source later).stages source v = (⟨some ss⟩, ⟨.ok ss, []⟩)) ∧
    ∀ before before' after after' : List (Request World),
      List.Forall₂ (fun q q' => q.Agree outside q' ∧ q.SameFiles files q') before before' →
      (served settings before).catalog.isLoaded = true →
      List.Forall₂ (Request.Agree outside) after after' →
      List.Forall₂ (Ran.Agree outside) (answers settings new (before ++ after))
        (answers settings new (before' ++ after')) := by
  intro source settings
  constructor
  · intro earlier w hearlier called
    obtain ⟨hfail, hload⟩ := Catalog.stages_called hearlier w
    constructor
    · intro hw
      obtain ⟨f, hf, hl, hempty⟩ := hfail hw
      exact ⟨f, hf, hl, congrArg Catalog.isLoaded hempty, hempty⟩
    · intro ss hss
      obtain ⟨hl, hkept, hlater⟩ := hload ss hss
      exact ⟨hl, congrArg Catalog.isLoaded hkept, hlater⟩
  · intro before before' after after' hbefore hk hafter
    have hsame (v v' : World) (hv : files v = files v') : source v = source v' := by
      simp only [source, StageSource.ofDirectories, hv]
    exact (coherent_new settings).answers_agree (ofDirectories_loadsSeeing rfl) hsame hbefore hk hafter

end Reconciler
end StageGate
