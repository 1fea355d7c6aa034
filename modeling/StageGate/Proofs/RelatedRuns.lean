import StageGate.Proofs.ReconcilerHistory

/-!
Related runs. Where two runs find related worlds, and their controls do the same and leave related worlds,
all the steps of a reconcile do the same: the relation is carried from the controls of a stage up to the
whole.
-/

namespace StageGate

/-- Results that are the same, but for the worlds at their ends, which are related. -/
structure Ran.Match {World Result : Type} (R : Token → World → World → Prop) (a b : Ran World Result) :
    Prop where
  result : a.result = b.result
  token : a.token = b.token
  effects : a.effects = b.effects
  related : R a.token a.world b.world

variable {World : Type} {R : Token → World → World → Prop} {h h' : Host World} {subject : Value}
  {t : Token} {w w' : World}

theorem Ran.Match.exists_eq {Result : Type} {a b : Ran World Result} (hab : a.Match R b) :
    ∃ result token w₁ w₂ effects, a = ⟨result, token, w₁, effects⟩ ∧
      b = ⟨result, token, w₂, effects⟩ ∧ R token w₁ w₂ := by
  obtain ⟨result, token, w₁, effects⟩ := a
  obtain ⟨_, _, w₂, _⟩ := b
  obtain ⟨rfl, rfl, rfl, hw⟩ := hab
  exact ⟨result, token, w₁, w₂, effects, rfl, rfl, hw⟩

/-- What comes first is the same on both sides. -/
theorem Ran.Match.after {Result : Type} {a b : Ran World Result} (hab : a.Match R b)
    (es : List Effect) :
    Ran.Match R { a with effects := es ++ a.effects } { b with effects := es ++ b.effects } :=
  ⟨hab.result, hab.token, congrArg (es ++ ·) hab.effects, hab.related⟩

/-- In related worlds the token fires on both sides or on neither. -/
def Host.FireAlike (R : Token → World → World → Prop) (h h' : Host World) : Prop :=
  ∀ t w w', R t w w' → t.fired (h.now w) = t.fired (h'.now w')

/-- In related worlds the control does the same on both sides, and leaves related worlds. -/
def Control.Matches (c : Control World) (R : Token → World → World → Prop) (h h' : Host World)
    (subject : Value) (b : Bundle) : Prop :=
  ∀ t w w', R t w w' → (c.run h subject b t w).Match R (c.run h' subject b t w')

theorem Host.FireAlike.check (hf : h.FireAlike R h') (hw : R t w w') (place : String) :
    t.check (h.now w) place = t.check (h'.now w') place := by
  unfold Token.check
  rw [hf t w w' hw]

namespace Stepper
variable {s : Stepper World}

theorem runControls_match (hf : h.FireAlike R h') (position : Nat) (stage : Stage World) (i : Nat)
    {cs : List (Control World)} (hcs : ∀ c ∈ cs, c.Matches R h h' subject stage.bundle)
    (hw : R t w w') :
    (runControls h subject position stage i cs t w).Match R
      (runControls h' subject position stage i cs t w') := by
  induction cs generalizing i t w w' with
  | nil => exact ⟨rfl, rfl, rfl, hw⟩
  | cons c cs ih =>
    obtain ⟨hc, hrest⟩ := List.forall_mem_cons.mp hcs
    obtain ⟨result, t', w₁, w₂, es, ha, hb, hw'⟩ := (hc t w w' hw).exists_eq
    unfold runControls
    simp only [hf.check hw, ha, hb]
    cases t.check (h'.now w') (stage.entry i c).text with
    | some f => exact ⟨rfl, rfl, rfl, hw⟩
    | none =>
      rcases result with f | (_ | _ | _)
      · exact ⟨rfl, rfl, rfl, hw'⟩
      · exact (ih (i + 1) hrest hw').after _
      · exact ⟨rfl, rfl, rfl, hw'⟩
      · exact ⟨rfl, rfl, rfl, hw'⟩

theorem step_match (hf : h.FireAlike R h')
    (hs : ∀ stage ∈ s.stages, ∀ c ∈ stage.controls, c.Matches R h h' subject stage.bundle)
    (hw : R t w w') : (s.step h subject t w).Match R (s.step h' subject t w') := by
  unfold step
  split
  · exact ⟨rfl, rfl, rfl, hw⟩
  cases hc : s.current? with
  | none => exact ⟨rfl, rfl, rfl, hw⟩
  | some stage =>
    obtain ⟨result, t', w₁, w₂, es, ha, hb, hw'⟩ := (runControls_match hf s.cursor stage 0
      (hs stage (List.mem_of_getElem? hc)) hw).exists_eq
    simp only [ha, hb]
    cases result with
    | some f => exact ⟨rfl, rfl, rfl, hw'⟩
    | none => exact ⟨rfl, rfl, rfl, hw'⟩

theorem runFor_match (hf : h.FireAlike R h') (n : Nat)
    (hs : ∀ stage ∈ s.stages, ∀ c ∈ stage.controls, c.Matches R h h' subject stage.bundle)
    (hw : R t w w') : (runFor h subject n s t w).Match R (runFor h' subject n s t w') := by
  -- The controls of all stages match, and no step changes the stages.
  induction n generalizing s t w w' with
  | zero => exact ⟨rfl, rfl, rfl, hw⟩
  | succ n ih =>
    unfold runFor
    split
    · exact ⟨rfl, rfl, rfl, hw⟩
    have hstages := (step_steps h subject s t w).stages
    obtain ⟨⟨s', stopped⟩, t', w₁, w₂, es, ha, hb, hw'⟩ := (step_match hf hs hw).exists_eq
    rw [ha] at hstages
    simp only [ha, hb]
    cases stopped with
    | some f => exact ⟨rfl, rfl, rfl, hw'⟩
    | none => exact (ih (hstages ▸ hs) hw').after es

theorem run_match (hf : h.FireAlike R h')
    (hs : ∀ stage ∈ s.stages, ∀ c ∈ stage.controls, c.Matches R h h' subject stage.bundle)
    (hw : R t w w') : (s.run h subject t w).Match R (s.run h' subject t w') :=
  runFor_match hf _ hs hw

end Stepper

namespace Reconciler
variable {settings : Settings World} {r : Reconciler World} {i : Identity} {ss : List (Stage World)}

theorem apply_match (hf : h.FireAlike R h')
    (hs : ∀ stage ∈ ((r.registry.get i).restart subject ss).stages,
      ∀ c ∈ stage.controls, c.Matches R h h' subject stage.bundle)
    (hw : R t w w') : (r.apply h i subject ss t w).Match R (r.apply h' i subject ss t w') := by
  obtain ⟨⟨s, stopped⟩, t', w₁, w₂, es, ha, hb, hw'⟩ := (Stepper.run_match hf hs hw).exists_eq
  unfold apply
  simp only [ha, hb]
  exact ⟨rfl, rfl, rfl, hw'⟩

theorem Coherent.load_match (hr : Coherent settings r) (hf : h.FireAlike R h')
    (hl : r.catalog.stages settings.source w = r.catalog.stages settings.source w')
    (hs : ∀ ss, (r.catalog.stages settings.source w).2.result = .ok ss →
      ∀ stage ∈ ss, ∀ c ∈ stage.controls, c.Matches R h h' subject stage.bundle)
    (hw : R t w w') :
    (r.load settings h i subject t w).Match R (r.load settings h' i subject t w') := by
  cases hloaded : (r.catalog.stages settings.source w).2.result with
  | error f =>
    unfold Reconciler.load
    simp only [← hl, hloaded]
    split <;> exact ⟨rfl, rfl, rfl, hw⟩
  | ok ss =>
    have hloaded' : (r.catalog.stages settings.source w').2.result = .ok ss := hl ▸ hloaded
    have hs' : ∀ stage ∈ ((r.registry.get i).restart subject ss).stages,
        ∀ c ∈ stage.controls, c.Matches R h h' subject stage.bundle := by
      rw [hr.restart_stages i subject hloaded]
      exact hs ss hloaded
    rw [load_of_ok hloaded, load_of_ok hloaded', ← hl]
    let c := (r.catalog.stages settings.source w).1
    exact (apply_match (r := ⟨c, r.registry⟩) hf hs' hw).after _

/-- Two reconciles do the same if the fetch and the loading do, and all controls that it may come to. -/
theorem Coherent.reconcileWith_match (hr : Coherent settings r) (hf : h.FireAlike R h')
    (hfetch : (h.fetch (instanceLookup settings i) t w).Match R
      (h'.fetch (instanceLookup settings i) t w'))
    (hl : r.catalog.stages settings.source (h.fetch (instanceLookup settings i) t w).world =
      r.catalog.stages settings.source (h'.fetch (instanceLookup settings i) t w').world)
    (hs : ∀ subject ss, (h.fetch (instanceLookup settings i) t w).result = .ok subject →
      (r.catalog.stages settings.source
        (h.fetch (instanceLookup settings i) t w).world).2.result = .ok ss →
      ∀ stage ∈ ss, ∀ c ∈ stage.controls, c.Matches R h h' subject stage.bundle)
    (hw : R t w w') :
    (r.reconcileWith settings h i t w).Match R (r.reconcileWith settings h' i t w') := by
  unfold reconcileWith
  rw [hf.check hw]
  cases t.check (h'.now w') "instance fetch" with
  | some f => exact ⟨rfl, rfl, rfl, hw⟩
  | none =>
    obtain ⟨result, t', w₁, w₂, es, ha, hb, hw'⟩ := hfetch.exists_eq
    rw [ha] at hs
    rw [ha, hb] at hl
    simp only [ha, hb]
    cases result with
    | error f => exact ⟨rfl, rfl, rfl, hw'⟩
    | ok subject => exact (hr.load_match hf hl (fun ss => hs subject ss rfl) hw').after _

end Reconciler
end StageGate
