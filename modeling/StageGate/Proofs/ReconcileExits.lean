import StageGate.Proofs.Stepping
import StageGate.Reconcile.Basic

/-!
The exits of a reconcile: the token that has fired, the fetch that fails, the stages that cannot be
loaded, and the run through the stages. Each exit has one equation for all that it leaves.
-/

namespace StageGate

namespace Registry
variable {World : Type}

theorem lookup_setIn_self (i : Identity) (s : Stepper World) (es : List (Identity × Stepper World)) :
    (setIn i s es).lookup i = some s := by
  induction es with
  | nil => simp [setIn]
  | cons e es ih =>
    obtain ⟨j, t⟩ := e
    by_cases hj : j = i
    · simp [setIn, hj]
    · have hij : (i == j) = false := by simpa using Ne.symm hj
      simp [setIn, hj, List.lookup_cons, hij, ih]

theorem lookup_setIn_other {i j : Identity} (hij : j ≠ i) (s : Stepper World)
    (es : List (Identity × Stepper World)) : (setIn i s es).lookup j = es.lookup j := by
  induction es with
  | nil =>
    have hji : (j == i) = false := by simpa using hij
    simp [setIn, List.lookup_cons, hji]
  | cons e es ih =>
    obtain ⟨k, t⟩ := e
    by_cases hk : k = i
    · have hjk : (j == k) = false := by simpa [hk] using hij
      simp [setIn, hk, List.lookup_cons, hk ▸ hjk]
    · simp [setIn, hk, List.lookup_cons, ih]

@[simp] theorem find?_set_self (r : Registry World) (i : Identity) (s : Stepper World) :
    (r.set i s).find? i = some s :=
  lookup_setIn_self i s r.steppers

theorem find?_set_other (r : Registry World) {i j : Identity} (hij : j ≠ i) (s : Stepper World) :
    (r.set i s).find? j = r.find? j :=
  lookup_setIn_other hij s r.steppers

theorem find?_forget_self (r : Registry World) (i : Identity) : (r.forget i).find? i = none := by
  rw [find?, List.lookup_eq_none_iff]
  intro e he
  have hne : e.1 ≠ i := by simpa using (List.mem_filter.mp he).2
  simpa using hne.symm

theorem find?_forget_other (r : Registry World) {i j : Identity} (hij : j ≠ i) :
    (r.forget i).find? j = r.find? j := by
  obtain ⟨es⟩ := r
  simp only [forget, find?]
  induction es with
  | nil => rfl
  | cons e es ih =>
    obtain ⟨k, t⟩ := e
    by_cases hk : k = i
    · have hjk : (j == k) = false := by simpa [hk] using hij
      simp only [List.lookup_cons, hjk]
      simpa [hk] using ih
    · simp [hk, List.lookup_cons, ih]

theorem find?_of_find?_forget {r : Registry World} {i j : Identity} {s : Stepper World}
    (hs : (r.forget i).find? j = some s) : r.find? j = some s := by
  by_cases hij : j = i
  · simp [hij, find?_forget_self] at hs
  · rwa [find?_forget_other r hij] at hs

end Registry

namespace Catalog
variable {World : Type} {c : Catalog World} {source : StageSource World} {w : World}

theorem stages_of_error {f : Fault} (hl : (c.stages source w).2.result = .error f) :
    (c.stages source w).1 = c := by
  unfold stages at hl ⊢
  cases hk : c.kept with
  | some ss => simp [hk] at hl
  | none =>
    cases hr : (source w).result with
    | error f => simp [hr]
    | ok ss => simp [hk, hr] at hl

theorem kept_of_ok {ss : List (Stage World)} (hl : (c.stages source w).2.result = .ok ss) :
    (c.stages source w).1.kept = some ss := by
  unfold stages at hl ⊢
  cases hk : c.kept with
  | some ss' => simpa [hk] using hl
  | none =>
    cases hr : (source w).result with
    | error f => simp [hk, hr] at hl
    | ok ss' => simpa [hk, hr] using hl

theorem stages_of_kept {ss : List (Stage World)} (hk : c.kept = some ss) :
    c.stages source w = (c, ⟨.ok ss, []⟩) := by
  simp [stages, hk]

theorem stages_of_not_kept (hk : c.kept = none) : (c.stages source w).2.result = (source w).result := by
  unfold stages
  rw [hk]
  cases hr : (source w).result <;> simp [hr]

end Catalog

namespace Reconciler
variable {World : Type} {settings : Settings World} {h : Host World} {r : Reconciler World}
  {i : Identity} {t t' : Token} {w w' : World} {f : Fault} {subject : Value} {ss : List (Stage World)}

/-- The token has fired: nothing is looked up. -/
theorem reconcileWith_cancelled (ht : t.fired (h.now w) = true) :
    r.reconcileWith settings h i t w =
      ⟨(r, .ok (.retry (.cancelled (.before "instance fetch")))), t, w,
        [.logged (.fetching i settings.instanceKind),
          .logged (.fetchCancelled i (.cancelled (.before "instance fetch")))]⟩ := by
  simp [reconcileWith, Token.check, ht, unfetched, Fault.isNotFound, Fault.isCancelled]

/-- The instance cannot be fetched. -/
theorem reconcileWith_unfetched (ht : t.fired (h.now w) = false)
    (hg : h.get (instanceLookup settings i) t w = (.error f, t', w')) :
    r.reconcileWith settings h i t w =
      ⟨((unfetched r i f).1, .ok (unfetched r i f).2.1), t', w',
        [.logged (.fetching i settings.instanceKind), .lookup (instanceLookup settings i),
          .logged (unfetched r i f).2.2]⟩ := by
  simp [reconcileWith, Token.check, ht, Host.fetch, hg]

theorem reconcileWith_fetched (ht : t.fired (h.now w) = false)
    (hg : h.get (instanceLookup settings i) t w = (.ok subject, t', w')) :
    r.reconcileWith settings h i t w =
      { r.load settings h i subject t' w' with
        effects := .logged (.fetching i settings.instanceKind) ::
          .lookup (instanceLookup settings i) :: (r.load settings h i subject t' w').effects } := by
  simp [reconcileWith, Token.check, ht, Host.fetch, hg]

/-- The stages cannot be loaded: what is no fault of a manifest escapes. -/
theorem load_of_error (hl : (r.catalog.stages settings.source w).2.result = .error f) :
    (r.load settings h i subject t w).result =
      (r, if f.isDecode then .ok (.retry f) else .error f) := by
  unfold load
  simp only [hl, Catalog.stages_of_error hl]
  split <;> rfl

theorem load_of_error_after (h : Host World) (i : Identity) (subject : Value) (t : Token)
    (hl : (r.catalog.stages settings.source w).2.result = .error f) :
    (r.load settings h i subject t w).token = t ∧ (r.load settings h i subject t w).world = w ∧
      Stepper.acts (r.load settings h i subject t w).effects = [] := by
  unfold load
  simp only [hl]
  split <;> simp

/-- What a run that was stopped or not comes to. -/
theorem apply_result (r : Reconciler World) (i : Identity) (subject : Value)
    (ss : List (Stage World)) (t : Token) (w : World) :
    let ran := ((r.registry.get i).restart subject ss).run h subject t w
    (r.apply h i subject ss t w).result =
      ({ r with registry := r.registry.set i ran.result.1 },
        .ok ⟨ran.result.2.isSome, ran.result.2⟩) := by
  unfold apply
  rcases ((r.registry.get i).restart subject ss).run h subject t w with ⟨⟨s, _ | f⟩, t', w', es⟩
  · rfl
  · rfl

theorem apply_acts (r : Reconciler World) (i : Identity) (subject : Value)
    (ss : List (Stage World)) (t : Token) (w : World) :
    Stepper.acts (r.apply h i subject ss t w).effects =
      Stepper.acts (((r.registry.get i).restart subject ss).run h subject t w).effects := by
  unfold apply
  rcases ((r.registry.get i).restart subject ss).run h subject t w with ⟨⟨s, _ | f⟩, t', w', es⟩
  · simp
  · simp

theorem apply_after (r : Reconciler World) (i : Identity) (subject : Value)
    (ss : List (Stage World)) (t : Token) (w : World) :
    let ran := ((r.registry.get i).restart subject ss).run h subject t w
    (r.apply h i subject ss t w).token = ran.token ∧
      (r.apply h i subject ss t w).world = ran.world := by
  unfold apply
  rcases ((r.registry.get i).restart subject ss).run h subject t w with ⟨⟨s, _ | f⟩, t', w', es⟩
  · exact ⟨rfl, rfl⟩
  · exact ⟨rfl, rfl⟩

theorem unfetched_gone (hf : f.isNotFound = true) :
    (unfetched r i f).2.1 = .done := by
  simp [unfetched, hf]

theorem unfetched_retry (hf : f.isNotFound = false) :
    (unfetched r i f).2.1 = .retry f := by
  unfold unfetched
  cases hc : f.isCancelled <;> simp [hf]

end Reconciler
end StageGate
