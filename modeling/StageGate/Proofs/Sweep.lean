import StageGate.Stage.Stepper

/-!
Sweeps: the controls of stages run one after another as a single list of checks. The relation knows
nothing of cursors, phases, or fuel, and a step of a stepper is shown to be a sweep of one stage.
-/

namespace StageGate

/-- A control at its place: the number of its stage, and its own number in that stage. -/
structure Check (World : Type) where
  stage : Stage World
  position : Nat
  index : Nat
  control : Control World

namespace Check
variable {World : Type}

def entry (c : Check World) : StageEntry :=
  c.stage.entry c.index c.control

def run (c : Check World) (h : Host World) (subject : Value) (t : Token) (w : World) :
    Ran World (Except Fault Answer) :=
  c.control.run h subject c.stage.bundle t w

/-- What the check leaves behind: that it began, and the effects of its control. -/
def effects (c : Check World) (h : Host World) (subject : Value) (t : Token) (w : World) :
    List Effect :=
  .began c.position c.index :: (c.run h subject t w).effects

def cancelled (c : Check World) : Fault :=
  .cancelled (.before c.entry.text)

def refused (c : Check World) : Fault :=
  .notReady c.stage.name c.entry.kind c.entry.name

end Check

section
variable {World : Type}

/-- The checks of a stage at a position, in the order of its controls. -/
def Stage.checks (s : Stage World) (position : Nat) : List (Check World) :=
  s.controls.zipIdx.map fun (c, i) => ⟨s, position, i, c⟩

/-- The checks of stages, the first of which stands at a position, in stage and control order. -/
def checksFrom (position : Nat) (stages : List (Stage World)) : List (Check World) :=
  (stages.zipIdx position).flatMap fun (s, p) => s.checks p

theorem Stage.mem_checks {s : Stage World} {p : Nat} {c : Check World} (hc : c ∈ s.checks p) :
    c.stage = s ∧ c.control ∈ s.controls := by
  simp only [Stage.checks, List.mem_map] at hc
  obtain ⟨⟨control, i⟩, hmem, rfl⟩ := hc
  exact ⟨rfl, (List.mem_zipIdx' hmem).2 ▸ List.getElem_mem _⟩

theorem Stage.exists_check {s : Stage World} {control : Control World} (p : Nat)
    (hc : control ∈ s.controls) : ∃ c ∈ s.checks p, c.control = control := by
  obtain ⟨i, hi⟩ := List.mem_iff_getElem?.mp hc
  refine ⟨⟨s, p, i, control⟩, List.mem_map.mpr ⟨(control, i), ?_, rfl⟩, rfl⟩
  simpa [List.mem_zipIdx_iff_getElem?] using hi

@[simp] theorem checksFrom_nil (p : Nat) : checksFrom p ([] : List (Stage World)) = [] := rfl

@[simp] theorem checksFrom_cons (p : Nat) (s : Stage World) (rest : List (Stage World)) :
    checksFrom p (s :: rest) = s.checks p ++ checksFrom (p + 1) rest := by
  simp [checksFrom]

theorem mem_checksFrom {n : Nat} {ss : List (Stage World)} {c : Check World}
    (hc : c ∈ checksFrom n ss) : c.stage ∈ ss ∧ c.control ∈ c.stage.controls := by
  obtain ⟨⟨s, p⟩, hs, hc⟩ := List.mem_flatMap.mp hc
  obtain ⟨rfl, hcontrol⟩ := Stage.mem_checks hc
  exact ⟨List.fst_mem_of_mem_zipIdx hs, hcontrol⟩

/-- Checks made one after another. Each is made once, with the token unfired, and the next one only if
it is ready; the result is the fault of the first check that is not passed. -/
inductive Sweep (h : Host World) (subject : Value) :
    List (Check World) → Token → World → Ran World (Option Fault) → Prop where
  | done {t w} : Sweep h subject [] t w ⟨none, t, w, []⟩
  | cancelled {c cs t w} (ht : t.fired (h.now w) = true) :
      Sweep h subject (c :: cs) t w ⟨some c.cancelled, t, w, []⟩
  | raised {c cs t w f} (ht : t.fired (h.now w) = false)
      (hr : (c.run h subject t w).result = .error f) :
      Sweep h subject (c :: cs) t w
        ⟨some f, (c.run h subject t w).token, (c.run h subject t w).world, c.effects h subject t w⟩
  | refused {c cs t w a} (ht : t.fired (h.now w) = false)
      (hr : (c.run h subject t w).result = .ok a) (ha : a ≠ .ready) :
      Sweep h subject (c :: cs) t w ⟨some c.refused, (c.run h subject t w).token,
        (c.run h subject t w).world, c.effects h subject t w⟩
  | passed {c cs t w rest} (ht : t.fired (h.now w) = false)
      (hr : (c.run h subject t w).result = .ok .ready)
      (hrest : Sweep h subject cs (c.run h subject t w).token (c.run h subject t w).world rest) :
      Sweep h subject (c :: cs) t w { rest with effects := c.effects h subject t w ++ rest.effects }

namespace Sweep
variable {h : Host World} {subject : Value} {cs ds : List (Check World)} {t : Token} {w : World}
  {r r' : Ran World (Option Fault)}

theorem deterministic (hs : Sweep h subject cs t w r) (hs' : Sweep h subject cs t w r') :
    r = r' := by
  induction hs generalizing r' with
  | done => cases hs'; rfl
  | cancelled ht => cases hs' <;> simp_all
  | raised ht hr => cases hs' <;> simp_all
  | refused ht hr ha => cases hs' <;> simp_all
  | passed ht hr _ ih =>
    cases hs' with
    | cancelled ht' => simp_all
    | raised _ hr' => simp_all
    | refused _ hr' ha => simp_all
    | passed _ _ hrest => rw [ih hrest]

/-- A check that is not passed ends the sweep, whatever checks come after it. -/
theorem append_of_stopped {f : Fault} (hs : Sweep h subject cs t w r) (hf : r.result = some f) :
    Sweep h subject (cs ++ ds) t w r := by
  induction hs with
  | done => simp at hf
  | cancelled ht => exact .cancelled ht
  | raised ht hr => exact .raised ht hr
  | refused ht hr ha => exact .refused ht hr ha
  | passed ht hr _ ih => exact .passed ht hr (ih hf)

/-- Once all checks are passed, the sweep goes on where they left the token and the world. -/
theorem append_of_passed (hs : Sweep h subject cs t w r) (hf : r.result = none)
    (hs' : Sweep h subject ds r.token r.world r') :
    Sweep h subject (cs ++ ds) t w { r' with effects := r.effects ++ r'.effects } := by
  induction hs with
  | done => exact hs'
  | cancelled ht => simp at hf
  | raised ht hr => simp at hf
  | refused ht hr ha => simp at hf
  | passed ht hr _ ih =>
    simpa only [List.cons_append, List.append_assoc] using .passed ht hr (ih hf hs')

/-- Checks that are ready, as long as they find the token and the world as they leave them, are all
passed. -/
theorem exists_passed (reached : Token → World → Prop) (hw : reached t w)
    (ht : ∀ t w, reached t w → t.fired (h.now w) = false)
    (hready : ∀ c ∈ cs, ∀ t w, reached t w → (c.run h subject t w).result = .ok .ready ∧
      reached (c.run h subject t w).token (c.run h subject t w).world) :
    ∃ r, Sweep h subject cs t w r ∧ r.result = none := by
  induction cs generalizing t w with
  | nil => exact ⟨_, .done, rfl⟩
  | cons c cs ih =>
    obtain ⟨hc, hrest⟩ := List.forall_mem_cons.mp hready
    obtain ⟨hr, hnext⟩ := hc t w hw
    obtain ⟨rest, hs, hnone⟩ := ih hnext hrest
    exact ⟨_, .passed (ht t w hw) hr hs, hnone⟩

/-- In a sweep that is passed every check is ready, with a token and in a world that the checks before
it can reach. -/
theorem all_ready (reached : Token → World → Prop) (hs : Sweep h subject cs t w r)
    (hf : r.result = none) (hw : reached t w)
    (hkeep : ∀ c ∈ cs, ∀ t w, reached t w →
      reached (c.run h subject t w).token (c.run h subject t w).world) :
    (∀ c ∈ cs, ∃ t w, reached t w ∧ (c.run h subject t w).result = .ok .ready) ∧
      reached r.token r.world := by
  induction hs with
  | done => simpa using hw
  | cancelled ht => simp at hf
  | raised ht hr => simp at hf
  | refused ht hr ha => simp at hf
  | @passed c cs t w rest ht hr _ ih =>
    obtain ⟨hc, hrest⟩ := List.forall_mem_cons.mp hkeep
    obtain ⟨hready, hend⟩ := ih hf (hc t w hw) hrest
    exact ⟨List.forall_mem_cons.mpr ⟨⟨t, w, hw, hr⟩, hready⟩, hend⟩

end Sweep

namespace Stepper

/-- Running the controls of a stage is a sweep over its checks. -/
theorem runControls_sweep (h : Host World) (subject : Value) (position : Nat) (stage : Stage World)
    (i : Nat) (cs : List (Control World)) (t : Token) (w : World) :
    Sweep h subject ((cs.zipIdx i).map fun (c, i) => ⟨stage, position, i, c⟩) t w
      (runControls h subject position stage i cs t w) := by
  induction cs generalizing i t w with
  | nil => exact .done
  | cons c cs ih =>
    let check : Check World := ⟨stage, position, i, c⟩
    rw [List.zipIdx_cons, List.map_cons]
    cases ht : t.fired (h.now w) with
    | true =>
      simp only [runControls, Token.check, ht, ↓reduceIte]
      exact .cancelled (c := check) ht
    | false =>
      cases hr : (check.run h subject t w).result with
      | error f =>
        have hr' : (c.run h subject stage.bundle t w).result = .error f := hr
        simp only [runControls, Token.check, ht, hr', Bool.false_eq_true, ↓reduceIte]
        exact .raised (c := check) ht hr
      | ok a =>
        have hr' : (c.run h subject stage.bundle t w).result = .ok a := hr
        simp only [runControls, Token.check, ht, hr', Bool.false_eq_true, ↓reduceIte]
        cases a with
        | ready => exact .passed (c := check) ht hr (ih (i + 1) _ _)
        | notReady => exact .refused (c := check) ht hr (by decide)
        | other => exact .refused (c := check) ht hr (by decide)

end Stepper
end
end StageGate
