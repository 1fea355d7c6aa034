import Mathlib.Data.List.Induction
import StageGate.Proofs.Computations
import StageGate.Proofs.ReconcilerHistory

/-!
The registry after any requests. The main result says which identities are tracked, that a reconcile
touches the stepper of its own identity alone, and that one which stops before the stages touches none.
-/

namespace StageGate

namespace Registry
variable {World : Type}

theorem mem_tracked_iff {r : Registry World} {i : Identity} :
    i ∈ r.tracked ↔ (r.find? i).isSome = true := by
  obtain ⟨es⟩ := r
  simp only [tracked, find?]
  induction es with
  | nil => simp
  | cons e es ih =>
    obtain ⟨j, s⟩ := e
    by_cases hij : i = j
    · simp [hij]
    · have hij' : (i == j) = false := by simpa using hij
      simp [List.lookup_cons, hij, hij', ← ih]

theorem mem_tracked_set {r : Registry World} {i j : Identity} {s : Stepper World} :
    i ∈ (r.set j s).tracked ↔ i = j ∨ i ∈ r.tracked := by
  rw [mem_tracked_iff, mem_tracked_iff]
  by_cases hij : i = j
  · simp [hij]
  · simp [find?_set_other r hij, hij]

theorem mem_tracked_forget {r : Registry World} {i j : Identity} :
    i ∈ (r.forget j).tracked ↔ i ≠ j ∧ i ∈ r.tracked := by
  rw [mem_tracked_iff, mem_tracked_iff]
  by_cases hij : i = j
  · simp [hij, find?_forget_self]
  · simp [find?_forget_other r hij, hij]

end Registry

namespace Reconciler

/-- A call for a reconcile, with the surroundings it is made in and the token that it brings, if any.
The world of each call is its own, so anything may have changed since the call before it. -/
structure Request (World : Type) where
  host : Host World
  identity : Identity
  token : Option Token
  world : World

variable {World : Type}

/-- What a reconciler answers to a request. -/
def answer (settings : Settings World) (r : Reconciler World) (q : Request World) :
    Reconciled World :=
  r.reconcile settings q.host q.identity q.token q.world

def serve (settings : Settings World) (r : Reconciler World) (q : Request World) : Reconciler World :=
  (r.answer settings q).result.1

/-- A reconciler that was new before some requests. -/
def served (settings : Settings World) (requests : List (Request World)) : Reconciler World :=
  requests.foldl (serve settings) new

/-- The reconcile gets past the fetch and the loading of the stages. -/
def Request.Passes (settings : Settings World) (c : Catalog World) (q : Request World) : Prop :=
  ∃ t, tokenFor settings (q.host.now q.world) q.token = .ok t ∧
    Reaches settings q.host c q.identity t q.world

/-- The fetch finds no instance. -/
def Request.FindsGone (settings : Settings World) (q : Request World) : Prop :=
  ∃ t f t' w', tokenFor settings (q.host.now q.world) q.token = .ok t ∧
    t.fired (q.host.now q.world) = false ∧
    q.host.get (instanceLookup settings q.identity) t q.world = (.error f, t', w') ∧
    f.isNotFound = true

/-- The ways to stop before the stages, apart from an instance that is gone. -/
inductive Request.StopsEarly (settings : Settings World) (c : Catalog World) (q : Request World) :
    Prop where
  | untimed {m} (htoken : tokenFor settings (q.host.now q.world) q.token = .error m)
  | cancelled {t} (htoken : tokenFor settings (q.host.now q.world) q.token = .ok t)
      (ht : t.fired (q.host.now q.world) = true)
  | unfetched {t f t' w'} (htoken : tokenFor settings (q.host.now q.world) q.token = .ok t)
      (ht : t.fired (q.host.now q.world) = false)
      (hg : q.host.get (instanceLookup settings q.identity) t q.world = (.error f, t', w'))
      (hf : f.isNotFound = false)
  | unloaded {t subject t' w' f} (htoken : tokenFor settings (q.host.now q.world) q.token = .ok t)
      (ht : t.fired (q.host.now q.world) = false)
      (hg : q.host.get (instanceLookup settings q.identity) t q.world = (.ok subject, t', w'))
      (hl : (c.stages settings.source w').2.result = .error f)

/-- What a request does to the registry, by how far its reconcile gets. -/
inductive Registered (settings : Settings World) (r : Reconciler World) (q : Request World) :
    Registry World → Prop where
  | passed {s} (hpass : q.Passes settings r.catalog) :
      Registered settings r q (r.registry.set q.identity s)
  | gone (hgone : q.FindsGone settings) : Registered settings r q (r.registry.forget q.identity)
  | early (hstop : q.StopsEarly settings r.catalog) : Registered settings r q r.registry

variable {settings : Settings World} {r : Reconciler World} {q : Request World} {c : Catalog World}

theorem Request.Passes.not_findsGone (hpass : q.Passes settings c) : ¬ q.FindsGone settings := by
  obtain ⟨t, htoken, -, subject, t', w', ss, hg, -⟩ := hpass
  rintro ⟨u, f, u', v', htoken', -, hg', -⟩
  cases htoken.symm.trans htoken'
  simp [hg] at hg'

theorem Request.StopsEarly.not_findsGone (hstop : q.StopsEarly settings c) :
    ¬ q.FindsGone settings := by
  rintro ⟨t, f, t', w', htoken, ht, hg, hf⟩
  cases hstop with
  | untimed htoken' => simp [htoken] at htoken'
  | cancelled htoken' ht' =>
    cases htoken.symm.trans htoken'
    simp [ht] at ht'
  | unfetched htoken' _ hg' hf' =>
    cases htoken.symm.trans htoken'
    cases hg.symm.trans hg'
    simp [hf] at hf'
  | unloaded htoken' _ hg' =>
    cases htoken.symm.trans htoken'
    simp [hg] at hg'

theorem Request.StopsEarly.not_passes (hstop : q.StopsEarly settings c) : ¬ q.Passes settings c := by
  rintro ⟨t, htoken, ht, subject, t', w', ss, hg, hl⟩
  cases hstop with
  | untimed htoken' => simp [htoken] at htoken'
  | cancelled htoken' ht' =>
    cases htoken.symm.trans htoken'
    simp [ht] at ht'
  | unfetched htoken' _ hg' =>
    cases htoken.symm.trans htoken'
    simp [hg] at hg'
  | unloaded htoken' _ hg' hl' =>
    cases htoken.symm.trans htoken'
    cases hg.symm.trans hg'
    simp [hl] at hl'

theorem serve_registered (settings : Settings World) (r : Reconciler World) (q : Request World) :
    Registered settings r q (r.serve settings q).registry := by
  unfold serve answer
  rw [reconcile_eq]
  cases htoken : tokenFor settings (q.host.now q.world) q.token with
  | error m => exact .early (.untimed htoken)
  | ok t =>
    cases ht : t.fired (q.host.now q.world) with
    | true => simpa only [reconcileWith_cancelled ht] using .early (.cancelled htoken ht)
    | false =>
      rcases hg : q.host.get (instanceLookup settings q.identity) t q.world with
        ⟨f | subject, t', w'⟩
      · simp only [reconcileWith_unfetched ht hg]
        cases hf : f.isNotFound with
        | true =>
          simpa only [unfetched, hf, if_true] using .gone ⟨t, f, t', w', htoken, ht, hg, hf⟩
        | false =>
          have hsame : (unfetched r q.identity f).1 = r := by
            unfold unfetched
            cases hc : f.isCancelled <;> simp [hf]
          simpa only [hsame] using .early (.unfetched htoken ht hg hf)
      · simp only [reconcileWith_fetched ht hg]
        cases hl : (r.catalog.stages settings.source w').2.result with
        | error f => simpa only [load_of_error hl] using .early (.unloaded htoken ht hg hl)
        | ok ss =>
          simp only [load_of_ok hl, apply_result]
          exact .passed ⟨t, htoken, ht, subject, t', w', ss, hg, hl⟩

theorem Registered.find?_other {registry : Registry World} (hr : Registered settings r q registry)
    {i : Identity} (hi : i ≠ q.identity) : registry.find? i = r.registry.find? i := by
  cases hr with
  | passed => exact Registry.find?_set_other _ hi _
  | gone => exact Registry.find?_forget_other _ hi
  | early => rfl

theorem Registered.eq_of_stopsEarly {registry : Registry World}
    (hr : Registered settings r q registry) (hstop : q.StopsEarly settings r.catalog) :
    registry = r.registry := by
  cases hr with
  | passed hpass => exact absurd hpass hstop.not_passes
  | gone hgone => exact absurd hgone hstop.not_findsGone
  | early => rfl

theorem Registered.mem_tracked {registry : Registry World} (hr : Registered settings r q registry)
    (i : Identity) :
    i ∈ registry.tracked ↔ q.identity = i ∧ q.Passes settings r.catalog ∨
      i ∈ r.registry.tracked ∧ (q.identity = i → ¬ q.FindsGone settings) := by
  cases hr with
  | passed hpass =>
    have hgone := hpass.not_findsGone
    simp [Registry.mem_tracked_set, hpass, hgone, eq_comm]
  | gone hgone =>
    have hpass : ¬ q.Passes settings r.catalog := fun hpass => hpass.not_findsGone hgone
    simp [Registry.mem_tracked_forget, hpass, hgone, eq_comm, and_comm]
  | early hstop => simp [hstop.not_passes, hstop.not_findsGone]

theorem served_concat (requests : List (Request World)) (q : Request World) :
    served settings (requests ++ [q]) = (served settings requests).serve settings q := by
  simp [served]

theorem mem_tracked_served (requests : List (Request World)) (i : Identity) :
    i ∈ (served settings requests).registry.tracked ↔
      ∃ before q after, requests = before ++ q :: after ∧
        (q.identity = i ∧ q.Passes settings (served settings before).catalog) ∧
        ∀ q' ∈ after, q'.identity = i → ¬ q'.FindsGone settings := by
  -- What registers an identity is the last request, or one before it that the last does not undo.
  induction requests using List.reverseRecOn with
  | nil => simp [served, new, Registry.empty, Registry.tracked]
  | append_singleton requests q ih =>
    rw [served_concat, (serve_registered settings _ q).mem_tracked, ih, exists_place_concat]
    refine or_congr (by simp) ?_
    constructor
    · rintro ⟨⟨before, p, after, heq, hp, hafter⟩, hq⟩
      refine ⟨before, p, after, heq, hp, ?_⟩
      simpa [or_imp, forall_and] using ⟨hafter, hq⟩
    · rintro ⟨before, p, after, heq, hp, hafter⟩
      obtain ⟨hfront, hq⟩ : (∀ q' ∈ after, q'.identity = i → ¬ q'.FindsGone settings) ∧
          (q.identity = i → ¬ q.FindsGone settings) := by
        simpa [or_imp, forall_and] using hafter
      exact ⟨⟨before, p, after, heq, hp, hfront⟩, hq⟩

/-- After any requests an identity is tracked exactly when one of its reconciles got past the fetch and
the loading of the stages and no later one found the instance gone; the next reconcile leaves the
steppers of all other identities as they are; and if it is cancelled before the fetch, or the fetch
fails otherwise, or the stages cannot be loaded, it leaves the whole registry as it is. -/
theorem registry_isolated (settings : Settings World) (requests : List (Request World)) :
    let r := served settings requests
    (∀ i, i ∈ r.registry.tracked ↔
      ∃ before q after, requests = before ++ q :: after ∧
        (q.identity = i ∧ q.Passes settings (served settings before).catalog) ∧
        ∀ q' ∈ after, q'.identity = i → ¬ q'.FindsGone settings) ∧
    ∀ q : Request World,
      (∀ i, i ≠ q.identity → (r.serve settings q).registry.find? i = r.registry.find? i) ∧
      (q.StopsEarly settings r.catalog → (r.serve settings q).registry = r.registry) := by
  intro r
  refine ⟨mem_tracked_served requests, fun q => ?_⟩
  have hq := serve_registered settings r q
  exact ⟨fun i hi => hq.find?_other hi, hq.eq_of_stopsEarly⟩

end Reconciler
end StageGate
