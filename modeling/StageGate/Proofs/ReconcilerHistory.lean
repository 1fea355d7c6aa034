import StageGate.Proofs.ReconcileExits

/-!
Histories of a reconciler, and the main result that they leave no trace: what a reconcile does depends
on the world and the loaded stages alone, however often and with what outcomes others came before.
-/

namespace StageGate
namespace Reconciler

/-- A use of a reconciler, in whatever surroundings. -/
inductive Use (World : Type) where
  | reconcile (h : Host World) (i : Identity) (token : Option Token) (w : World)
  | stepperFor (i : Identity)
  | forget (i : Identity)
  | loadStages (w : World)

variable {World : Type}

/-- The reconciler after a use. -/
def use (settings : Settings World) (r : Reconciler World) : Use World → Reconciler World
  | .reconcile h i token w => (r.reconcile settings h i token w).result.1
  | .stepperFor i => { r with registry := r.registry.set i (r.registry.get i) }
  | .forget i => { r with registry := r.registry.forget i }
  | .loadStages w => { r with catalog := (r.catalog.stages settings.source w).1 }

/-- A reconciler that was new before some uses. -/
def used (settings : Settings World) (uses : List (Use World)) : Reconciler World :=
  uses.foldl (use settings) new

/-- All that a reconcile of an identity can do to the reconciler. -/
inductive Change (settings : Settings World) (r : Reconciler World) (i : Identity) :
    Reconciler World → Prop where
  | unchanged : Change settings r i r
  | forgotten : Change settings r i { r with registry := r.registry.forget i }
  | stepped {w subject ss s} (hl : (r.catalog.stages settings.source w).2.result = .ok ss)
      (hs : s.stages = ((r.registry.get i).restart subject ss).stages)
      (ho : s.owner = (r.registry.get i).owner) :
      Change settings r i ⟨(r.catalog.stages settings.source w).1, r.registry.set i s⟩

/-- What a reconciler keeps to: stages come from the source, a stepper that has stages has those of
the catalog, and it is registered under the identity that owns it. -/
structure Coherent (settings : Settings World) (r : Reconciler World) : Prop where
  loaded : ∀ ss, r.catalog.kept = some ss → ∃ w, (settings.source w).result = .ok ss
  stages : ∀ i s, r.registry.find? i = some s → s.stages = [] ∨ r.catalog.kept = some s.stages
  owner : ∀ i s, r.registry.find? i = some s → s.owner = some i.text

/-- The parts of two reconciles that may be seen from outside are equal. -/
structure Alike (a b : Reconciled World) : Prop where
  outcome : a.result.2 = b.result.2
  catalog : a.result.1.catalog = b.result.1.catalog
  token : a.token = b.token
  world : a.world = b.world
  effects : a.effects = b.effects

/-- A reconcile reaches the stepper once it has fetched the instance and loaded the stages. -/
def Reaches (settings : Settings World) (h : Host World) (c : Catalog World) (i : Identity)
    (t : Token) (w : World) : Prop :=
  t.fired (h.now w) = false ∧ ∃ subject t' w' ss,
    h.get (instanceLookup settings i) t w = (.ok subject, t', w') ∧
      (c.stages settings.source w').2.result = .ok ss

/-- The token of a reconcile: the given one, or one that the timeout makes. -/
def tokenFor (settings : Settings World) (now : Rat) : Option Token → Except Mismatch Token
  | some t => .ok t
  | none => Token.ofTimeout now settings.timeout

variable {settings : Settings World} {h : Host World} {r r' : Reconciler World} {i : Identity}
  {t : Token} {w : World} {subject : Value} {ss : List (Stage World)}

theorem reconcile_eq (r : Reconciler World) (token : Option Token) :
    r.reconcile settings h i token w =
      match tokenFor settings (h.now w) token with
      | .ok t => r.reconcileWith settings h i t w
      | .error m => ⟨(r, .error (.mismatch m)), .quiet, w, []⟩ := by
  cases token <;> rfl

theorem load_of_ok (hl : (r.catalog.stages settings.source w).2.result = .ok ss) :
    r.load settings h i subject t w =
      let c := (r.catalog.stages settings.source w).1
      let applied := (Reconciler.mk c r.registry).apply h i subject ss t w
      { applied with effects :=
          (r.catalog.stages settings.source w).2.events.map .logged ++ applied.effects } := by
  simp only [load, hl]

theorem Coherent.restart_stages (hr : Coherent settings r) (i : Identity) (subject : Value)
    (hl : (r.catalog.stages settings.source w).2.result = .ok ss) :
    ((r.registry.get i).restart subject ss).stages = ss := by
  rw [Stepper.restart_stages]
  cases hf : r.registry.find? i with
  | none => simp [Registry.get, hf, Stepper.new]
  | some s =>
    have hget : r.registry.get i = s := by simp [Registry.get, hf]
    rw [hget]
    rcases hr.stages i s hf with hnil | hk
    · simp [hnil]
    · rw [Catalog.stages_of_kept hk] at hl
      simp only [Except.ok.injEq] at hl
      simp [hl]

theorem Coherent.get_owner (hr : Coherent settings r) (i : Identity) :
    (r.registry.get i).owner = some i.text := by
  cases hf : r.registry.find? i with
  | none => simp [Registry.get, hf, Stepper.new]
  | some s => simpa [Registry.get, hf] using hr.owner i s hf

/-- A stepper that starts over is the one that a new reconciler would make. -/
theorem Coherent.restart_eq_new (hr : Coherent settings r) (i : Identity) (subject : Value)
    (hl : (r.catalog.stages settings.source w).2.result = .ok ss) :
    (r.registry.get i).restart subject ss =
      (Stepper.new (some i.text)).restart subject ss := by
  apply Stepper.restart_congr subject ss (hr.get_owner i)
  rw [hr.restart_stages i subject hl]
  rfl

theorem reconcileWith_change (settings : Settings World) (h : Host World) (r : Reconciler World)
    (i : Identity) (t : Token) (w : World) :
    Change settings r i (r.reconcileWith settings h i t w).result.1 := by
  cases ht : t.fired (h.now w) with
  | true =>
    rw [reconcileWith_cancelled ht]
    exact .unchanged
  | false =>
    rcases hg : h.get (instanceLookup settings i) t w with ⟨f | subject, t', w'⟩
    · rw [reconcileWith_unfetched ht hg]
      simp only [unfetched]
      split
      · exact .forgotten
      · split <;> exact .unchanged
    · rw [reconcileWith_fetched ht hg]
      cases hl : (r.catalog.stages settings.source w').2.result with
      | error f =>
        simp only [load_of_error hl]
        exact .unchanged
      | ok ss =>
        have hrun := Stepper.run_runs h subject ((r.registry.get i).restart subject ss) t' w'
        simp only [load_of_ok hl, apply_result]
        exact .stepped hl hrun.stages hrun.owner

theorem reconcile_change (settings : Settings World) (h : Host World) (r : Reconciler World)
    (i : Identity) (token : Option Token) (w : World) :
    Change settings r i (r.reconcile settings h i token w).result.1 := by
  rw [reconcile_eq]
  cases tokenFor settings (h.now w) token with
  | ok t => exact reconcileWith_change settings h r i t w
  | error m => exact .unchanged

theorem coherent_new (settings : Settings World) : Coherent settings new where
  loaded ss hk := by simp [new, Catalog.empty] at hk
  stages i s hs := by simp [new, Registry.empty, Registry.find?] at hs
  owner i s hs := by simp [new, Registry.empty, Registry.find?] at hs

theorem Coherent.set {s : Stepper World} (hr : Coherent settings r) (i : Identity)
    (hs : s.stages = [] ∨ r.catalog.kept = some s.stages) (ho : s.owner = some i.text) :
    Coherent settings { r with registry := r.registry.set i s } where
  loaded := hr.loaded
  stages j s' hj := by
    by_cases hij : j = i
    · subst hij
      rw [Registry.find?_set_self] at hj
      cases hj
      exact hs
    · rw [Registry.find?_set_other _ hij] at hj
      exact hr.stages j s' hj
  owner j s' hj := by
    by_cases hij : j = i
    · subst hij
      rw [Registry.find?_set_self] at hj
      cases hj
      exact ho
    · rw [Registry.find?_set_other _ hij] at hj
      exact hr.owner j s' hj

theorem Coherent.forget (hr : Coherent settings r) (i : Identity) :
    Coherent settings { r with registry := r.registry.forget i } where
  loaded := hr.loaded
  stages j s hj := hr.stages j s (Registry.find?_of_find?_forget hj)
  owner j s hj := hr.owner j s (Registry.find?_of_find?_forget hj)

theorem Coherent.load (hr : Coherent settings r) (w : World) :
    Coherent settings { r with catalog := (r.catalog.stages settings.source w).1 } where
  loaded ss hk := by
    cases hkept : r.catalog.kept with
    | some ss' =>
      rw [Catalog.stages_of_kept hkept] at hk
      exact hr.loaded ss hk
    | none =>
      cases hl : (r.catalog.stages settings.source w).2.result with
      | error f => simp [Catalog.stages_of_error hl, hkept] at hk
      | ok ss' =>
        rw [Catalog.kept_of_ok hl] at hk
        rw [Catalog.stages_of_not_kept hkept] at hl
        exact ⟨w, by rw [hl, Option.some.inj hk]⟩
  stages i s hs := by
    rcases hr.stages i s hs with hnil | hk
    · exact .inl hnil
    · exact .inr (by rw [Catalog.stages_of_kept hk]; exact hk)
  owner := hr.owner

theorem Coherent.change (hr : Coherent settings r) (hc : Change settings r i r') :
    Coherent settings r' := by
  cases hc with
  | unchanged => exact hr
  | forgotten => exact hr.forget i
  | @stepped w subject ss s hl hs ho =>
    have hstages : s.stages = ss := hs.trans (hr.restart_stages i subject hl)
    have hkept := Catalog.kept_of_ok hl
    exact (hr.load w).set i (.inr (hstages ▸ hkept)) (ho.trans (hr.get_owner i))

theorem Coherent.use (hr : Coherent settings r) (u : Use World) :
    Coherent settings (r.use settings u) := by
  cases u with
  | reconcile h i token w => exact hr.change (reconcile_change settings h r i token w)
  | stepperFor i =>
    refine hr.set i ?_ (hr.get_owner i)
    cases hf : r.registry.find? i with
    | none => exact .inl (by simp [Registry.get, hf, Stepper.new])
    | some s => simpa [Registry.get, hf] using hr.stages i s hf
  | forget i => exact hr.forget i
  | loadStages w => exact hr.load w

theorem coherent_foldl (hr : Coherent settings r) (uses : List (Use World)) :
    Coherent settings (uses.foldl (Reconciler.use settings) r) := by
  induction uses generalizing r with
  | nil => exact hr
  | cons u uses ih => exact ih (hr.use u)

theorem coherent_used (settings : Settings World) (uses : List (Use World)) :
    Coherent settings (used settings uses) :=
  coherent_foldl (coherent_new settings) uses

/-- The stages that a catalog gives have come from the source. -/
theorem Coherent.exists_source (hr : Coherent settings r)
    (hl : (r.catalog.stages settings.source w).2.result = .ok ss) :
    ∃ v, (settings.source v).result = .ok ss := by
  cases hk : r.catalog.kept with
  | none => exact ⟨w, by rwa [Catalog.stages_of_not_kept hk] at hl⟩
  | some ss' =>
    rw [Catalog.stages_of_kept hk] at hl
    cases hl
    exact hr.loaded _ hk

/-- Loading and stepping look at the reconciler only through the catalog and the stepper that starts
over. -/
theorem load_alike (hc : r.catalog = r'.catalog)
    (hs : ∀ ss, (r.catalog.stages settings.source w).2.result = .ok ss →
      (r.registry.get i).restart subject ss = (r'.registry.get i).restart subject ss) :
    Alike (r.load settings h i subject t w) (r'.load settings h i subject t w) ∧
      ∀ ss, (r.catalog.stages settings.source w).2.result = .ok ss →
        ∃ s, (r.load settings h i subject t w).result.1.registry.find? i = some s ∧
          (r'.load settings h i subject t w).result.1.registry.find? i = some s := by
  obtain ⟨c, registry⟩ := r
  obtain ⟨c', registry'⟩ := r'
  obtain rfl : c = c' := hc
  cases hl : (c.stages settings.source w).2.result with
  | error f =>
    refine ⟨?_, fun ss hss => by simp at hss⟩
    unfold load
    simp only [hl]
    split <;> exact ⟨rfl, rfl, rfl, rfl, rfl⟩
  | ok ss =>
    have hrestart := hs ss hl
    simp only at hrestart
    rw [load_of_ok hl, load_of_ok hl]
    unfold apply
    simp only [hrestart]
    exact ⟨⟨rfl, rfl, rfl, rfl, rfl⟩, fun _ _ => ⟨_, Registry.find?_set_self .., Registry.find?_set_self ..⟩⟩

theorem reconcileWith_alike (hr : Coherent settings r) (h : Host World) (i : Identity) (t : Token)
    (w : World) :
    let fresh : Reconciler World := ⟨r.catalog, .empty⟩
    Alike (r.reconcileWith settings h i t w) (fresh.reconcileWith settings h i t w) ∧
      (Reaches settings h r.catalog i t w →
        ∃ s, (r.reconcileWith settings h i t w).result.1.registry.find? i = some s ∧
          (fresh.reconcileWith settings h i t w).result.1.registry.find? i = some s) := by
  intro fresh
  cases ht : t.fired (h.now w) with
  | true =>
    rw [reconcileWith_cancelled ht, reconcileWith_cancelled ht]
    exact ⟨⟨rfl, rfl, rfl, rfl, rfl⟩, fun hreach => by simp [hreach.1] at ht⟩
  | false =>
    rcases hg : h.get (instanceLookup settings i) t w with ⟨f | subject, t', w'⟩
    · rw [reconcileWith_unfetched ht hg, reconcileWith_unfetched ht hg]
      constructor
      · unfold unfetched
        split
        · exact ⟨rfl, rfl, rfl, rfl, rfl⟩
        · split <;> exact ⟨rfl, rfl, rfl, rfl, rfl⟩
      · rintro ⟨-, subject, t'', w'', ss, hg', -⟩
        simp [hg] at hg'
    · have hs (ss : List (Stage World))
          (hl : (r.catalog.stages settings.source w').2.result = .ok ss) :
          (r.registry.get i).restart subject ss = (fresh.registry.get i).restart subject ss :=
        hr.restart_eq_new i subject hl
      have hcatalog : r.catalog = fresh.catalog := rfl
      obtain ⟨halike, hstepper⟩ := load_alike (h := h) (t := t') hcatalog hs
      rw [reconcileWith_fetched ht hg, reconcileWith_fetched ht hg]
      refine ⟨⟨halike.outcome, halike.catalog, halike.token, halike.world, ?_⟩, ?_⟩
      · simp only [halike.effects]
      · rintro ⟨-, subject', t'', w'', ss, hg', hl⟩
        rw [hg] at hg'
        cases hg'
        exact hstepper ss hl

/-- After any uses of a reconciler, a reconcile has the outcome, the effects (so the look-ups in their
order), and the token and world at its end that it has on a new reconciler with the same catalog; and
if it reaches the stepper, it leaves the same stepper. -/
theorem reconcile_memoryless (settings : Settings World) (uses : List (Use World)) (h : Host World)
    (i : Identity) (token : Option Token) (w : World) :
    let r := used settings uses
    let old := r.reconcile settings h i token w
    let fresh := (Reconciler.mk r.catalog .empty).reconcile settings h i token w
    Alike old fresh ∧
      ((∃ t, tokenFor settings (h.now w) token = .ok t ∧ Reaches settings h r.catalog i t w) →
        ∃ s, old.result.1.registry.find? i = some s ∧ fresh.result.1.registry.find? i = some s) := by
  intro r old fresh
  have hr : Coherent settings r := coherent_used settings uses
  simp only [old, fresh, reconcile_eq]
  cases tokenFor settings (h.now w) token with
  | error m =>
    exact ⟨⟨rfl, rfl, rfl, rfl, rfl⟩, fun ⟨t, ht, _⟩ => by simp at ht⟩
  | ok t =>
    obtain ⟨halike, hstepper⟩ := reconcileWith_alike hr h i t w
    refine ⟨halike, ?_⟩
    rintro ⟨t', ht', hreach⟩
    cases ht'
    exact hstepper hreach

end Reconciler
end StageGate
