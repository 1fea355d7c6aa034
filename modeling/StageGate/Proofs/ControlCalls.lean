import StageGate.Proofs.Cancellation
import StageGate.Proofs.ReadyChecks
import StageGate.Proofs.StepperHistory

/-!
The controls that a stepper calls, in the order in which it calls them. They are the first ones of those
it had still to pass, each called once, with a token that has not fired, and in the world that the one
before it leaves; the calls end with the first control that does not come back ready. A run climbs stage by
stage until the stepper is converged or a step of it is stopped.
-/

namespace StageGate

section
variable {World : Type}

/-- A check that is made, with the token and in the world that it finds. -/
structure Visit (World : Type) where
  check : Check World
  token : Token
  world : World

def Visit.ran (v : Visit World) (h : Host World) (subject : Value) : Ran World (Except Fault Answer) :=
  v.check.run h subject v.token v.world

def Visit.effects (v : Visit World) (h : Host World) (subject : Value) : List Effect :=
  v.check.effects h subject v.token v.world

/-- Visits one after another, from a token and a world to a token and a world. Each begins with the token
unfired and finds what the one before it leaves. -/
inductive Visits (h : Host World) (subject : Value) :
    Token → World → List (Visit World) → Token → World → Prop where
  | nil {t w} : Visits h subject t w [] t w
  | cons {c t w vs t' w'} (ht : t.fired (h.now w) = false)
      (hrest : Visits h subject (c.run h subject t w).token (c.run h subject t w).world vs t' w') :
      Visits h subject t w (⟨c, t, w⟩ :: vs) t' w'

/-- How the visits of a sweep over checks end; the token and the world are those after the last visit. -/
inductive Finish (h : Host World) (subject : Value) (cs : List (Check World)) (vs : List (Visit World))
    (t : Token) (w : World) : Option Fault → Prop where
  | passed (hcs : cs = vs.map Visit.check) (hready : ∀ v ∈ vs, (v.ran h subject).result = .ok .ready) :
      Finish h subject cs vs t w none
  | cancelled {c after} (hcs : cs = vs.map Visit.check ++ c :: after)
      (hready : ∀ v ∈ vs, (v.ran h subject).result = .ok .ready) (ht : t.fired (h.now w) = true) :
      Finish h subject cs vs t w (some c.cancelled)
  | raised {earlier last after f} (hcs : cs = vs.map Visit.check ++ after)
      (hvs : vs = earlier ++ [last])
      (hready : ∀ v ∈ earlier, (v.ran h subject).result = .ok .ready)
      (hlast : (last.ran h subject).result = .error f) : Finish h subject cs vs t w (some f)
  | refused {earlier last after a} (hcs : cs = vs.map Visit.check ++ after)
      (hvs : vs = earlier ++ [last])
      (hready : ∀ v ∈ earlier, (v.ran h subject).result = .ok .ready)
      (hlast : (last.ran h subject).result = .ok a) (ha : a ≠ .ready) :
      Finish h subject cs vs t w (some last.check.refused)

/-- The visits of a sweep, and what they come to. -/
structure Course (h : Host World) (subject : Value) (cs : List (Check World)) (t : Token) (w : World)
    (vs : List (Visit World)) (r : Ran World (Option Fault)) : Prop where
  visits : Visits h subject t w vs r.token r.world
  effects : r.effects = vs.flatMap (·.effects h subject)
  finish : Finish h subject cs vs r.token r.world r.result

variable {h : Host World} {subject : Value} {cs : List (Check World)} {vs : List (Visit World)}
  {v : Visit World} {t : Token} {w : World} {r : Ran World (Option Fault)} {result : Option Fault}

/-- A ready visit in front leaves the end of the visits as it is. -/
theorem Finish.cons (hv : (v.ran h subject).result = .ok .ready)
    (hfinish : Finish h subject cs vs t w result) :
    Finish h subject (v.check :: cs) (v :: vs) t w result := by
  have hall {us : List (Visit World)} (hus : ∀ u ∈ us, (u.ran h subject).result = .ok .ready) :
      ∀ u ∈ v :: us, (u.ran h subject).result = .ok .ready :=
    List.forall_mem_cons.mpr ⟨hv, hus⟩
  cases hfinish with
  | passed hcs hready => exact .passed (by rw [hcs]; rfl) (hall hready)
  | cancelled hcs hready ht => exact .cancelled (by rw [hcs]; rfl) (hall hready) ht
  | raised hcs hvs hready hlast =>
    exact .raised (by rw [hcs]; rfl) (by rw [hvs]; rfl) (hall hready) hlast
  | refused hcs hvs hready hlast ha =>
    exact .refused (by rw [hcs]; rfl) (by rw [hvs]; rfl) (hall hready) hlast ha

/-- The one visit of a check that is made. -/
theorem Visits.single {c : Check World} (ht : t.fired (h.now w) = false) :
    Visits h subject t w [⟨c, t, w⟩] (c.run h subject t w).token (c.run h subject t w).world :=
  .cons ht .nil

/-- Every sweep has a course, by induction on the checks that are passed. -/
theorem Sweep.exists_course (hs : Sweep h subject cs t w r) :
    ∃ vs, Course h subject cs t w vs r := by
  induction hs with
  | done => exact ⟨[], .nil, rfl, .passed rfl (by simp)⟩
  | cancelled ht => exact ⟨[], .nil, rfl, .cancelled rfl (by simp) ht⟩
  | @raised c cs t w f ht hr =>
    let last : Visit World := ⟨c, t, w⟩
    have hlast : (last.ran h subject).result = .error f := hr
    have hfinish : Finish h subject (c :: cs) [last] (c.run h subject t w).token
        (c.run h subject t w).world (some f) :=
      .raised rfl (List.nil_append _).symm (by simp) hlast
    exact ⟨[last], .single ht, by simp [last, Visit.effects], hfinish⟩
  | @refused c cs t w a ht hr ha =>
    let last : Visit World := ⟨c, t, w⟩
    have hlast : (last.ran h subject).result = .ok a := hr
    have hfinish : Finish h subject (c :: cs) [last] (c.run h subject t w).token
        (c.run h subject t w).world (some c.refused) :=
      .refused rfl (List.nil_append _).symm (by simp) hlast ha
    exact ⟨[last], .single ht, by simp [last, Visit.effects], hfinish⟩
  | @passed c cs t w rest ht hr _ ih =>
    obtain ⟨vs, hvisits, heffects, hfinish⟩ := ih
    let first : Visit World := ⟨c, t, w⟩
    have hready : (first.ran h subject).result = .ok .ready := hr
    exact ⟨first :: vs, .cons ht hvisits, by simp [first, Visit.effects, heffects],
      hfinish.cons hready⟩

theorem Finish.checks_prefix (hfinish : Finish h subject cs vs t w result) :
    vs.map Visit.check <+: cs := by
  cases hfinish with
  | passed hcs _ => exact hcs ▸ List.prefix_rfl
  | cancelled hcs _ _ => exact hcs ▸ List.prefix_append ..
  | raised hcs _ _ _ => exact hcs ▸ List.prefix_append ..
  | refused hcs _ _ _ _ => exact hcs ▸ List.prefix_append ..

theorem Finish.checks_eq (hfinish : Finish h subject cs vs t w none) : vs.map Visit.check = cs := by
  cases hfinish with
  | passed hcs _ => exact hcs.symm

/-- Only a control complains of the stepper being used in a wrong way. -/
theorem Finish.misuse {why : Misuse} (hfinish : Finish h subject cs vs t w (some (.misuse why))) :
    ∃ v ∈ vs, (v.ran h subject).result = .error (.misuse why) := by
  generalize hf : some (Fault.misuse why) = result at hfinish
  cases hfinish with
  | passed => simp at hf
  | cancelled => simp [Check.cancelled] at hf
  | raised _ hvs _ hlast =>
    cases hf
    exact ⟨_, by simp [hvs], hlast⟩
  | refused => simp [Check.refused] at hf

end

namespace Stepper
variable {World : Type}

/-- The stepper is reached from a new one by calls in any surroundings. -/
def Reachable (s : Stepper World) : Prop :=
  ∃ (owner : Option String) (calls : List (Call World)), s = calls.foldl call (new owner)

/-- A stepper that has been started. -/
structure Underway (s : Stepper World) : Prop where
  started : s.phase ≠ .idle
  cursor_le : s.cursor ≤ s.stages.length
  converged : s.isConverged = true → s.phase = .converged

/-- Steps that are not stopped, a number of them, with what they leave in the log and do to the world. -/
inductive Climbs (h : Host World) (subject : Value) :
    Nat → Stepper World → Token → World → Stepper World → Token → World → List Effect → Prop where
  | nil {s t w} : Climbs h subject 0 s t w s t w []
  | step {n s t w s' t' w' es last t'' w'' fs} (hs : s.step h subject t w = ⟨(s', none), t', w', es⟩)
      (hrest : Climbs h subject n s' t' w' last t'' w'' fs) :
      Climbs h subject (n + 1) s t w last t'' w'' (es ++ fs)

/-- The end of a run: all stages are climbed, or a step that has a stage before it is stopped. -/
inductive RunEnds (h : Host World) (subject : Value) (s : Stepper World) (t : Token) (w : World) :
    Stepped World → Prop where
  | converged {n last t' w' es} (hclimb : Climbs h subject n s t w last t' w' es)
      (hn : n = s.stages.length - s.cursor) (hphase : last.phase = .converged) :
      RunEnds h subject s t w ⟨(last, none), t', w', es⟩
  | stopped {n last t' w' es stage f t'' w'' fs} (hclimb : Climbs h subject n s t w last t' w' es)
      (hn : n < s.stages.length - s.cursor) (hstage : last.current? = some stage)
      (hs : last.step h subject t' w' = ⟨(last.block f, some f), t'', w'', fs⟩) :
      RunEnds h subject s t w ⟨(last.block f, some f), t'', w'', es ++ fs⟩

/-- What a step with a stage before it does, by the course of the checks of that stage. -/
inductive StepCourse (h : Host World) (subject : Value) (s : Stepper World) (t : Token) (w : World)
    (vs : List (Visit World)) : Stepped World → Prop where
  | passed {stage r} (hstage : s.current? = some stage)
      (hcourse : Course h subject (stage.checks s.cursor) t w vs r) (hr : r.result = none) :
      StepCourse h subject s t w vs
        ⟨(s.advance, none), r.token, r.world, r.effects ++ [.logged (s.advanceEvent stage)]⟩
  | blocked {stage r f} (hstage : s.current? = some stage)
      (hcourse : Course h subject (stage.checks s.cursor) t w vs r) (hr : r.result = some f) :
      StepCourse h subject s t w vs
        ⟨({ s with phase := .blocked, lastFault := some f }, some f), r.token, r.world, r.effects⟩

/-- What a run does, by the course of all checks that were still to pass; between stages it leaves
records in the log. -/
structure RunCourse (h : Host World) (subject : Value) (s : Stepper World) (t : Token) (w : World)
    (vs : List (Visit World)) (ran : Stepped World) : Prop where
  course : ∃ r, Course h subject s.remaining t w vs r ∧ r.result = ran.result.2 ∧ r.token = ran.token ∧
    r.world = ran.world ∧ acts r.effects = acts ran.effects
  ends : RunEnds h subject s t w ran

variable {h : Host World} {subject : Value} {s : Stepper World} {t : Token} {w : World}

theorem Reachable.exists_sound (hs : Reachable s) : ∃ owner moves, Sound owner moves s := by
  obtain ⟨owner, calls, rfl⟩ := hs
  rw [← replay_movesOf]
  exact ⟨owner, _, sound_replay owner _⟩

theorem Reachable.underway (hs : Reachable s) (hphase : s.phase ≠ .idle) : Underway s := by
  obtain ⟨owner, moves, hsound⟩ := hs.exists_sound
  exact ⟨hphase, hsound.cursor_le, hsound.isConverged_iff.mp⟩

theorem Reachable.exists_current (hs : Reachable s) (hidle : s.phase ≠ .idle)
    (hconverged : s.phase ≠ .converged) : ∃ stage, s.current? = some stage := by
  obtain ⟨owner, moves, hsound⟩ := hs.exists_sound
  have hcurrent : s.current? ≠ none := by
    intro hnone
    exact hconverged (hsound.converged_iff_current.mpr ⟨hidle, hnone⟩)
  exact Option.ne_none_iff_exists'.mp hcurrent

theorem underway_advance {stage : Stage World} (hstage : s.current? = some stage) :
    Underway s.advance where
  started := phaseAt_ne_idle _
  cursor_le := current?_lt hstage
  converged hc := (phaseAt_eq_converged _).mpr (isConverged_iff.mp hc).2

theorem Runs.ends_run {ran : Stepped World} (hr : Runs h subject s t w ran) (hs : Underway s) :
    RunEnds h subject s t w ran := by
  induction hr with
  | @converged s t w hc =>
    have hlast := (isConverged_iff.mp hc).2
    have hnone : 0 = s.stages.length - s.cursor := by omega
    exact .converged .nil hnone (hs.converged hc)
  | @stopped s t w s' f t' w' es hc hstep =>
    have hsteps := step_steps h subject s t w
    rw [hstep] at hsteps
    cases hsteps with
    | idle hi => exact absurd hi hs.started
    | spent hp hnone =>
      have hlen : s.cursor = s.stages.length := Nat.le_antisymm hs.cursor_le (current?_eq_none.mp hnone)
      have hconverged := isConverged_iff.mpr ⟨hp, hlen⟩
      simp [hconverged] at hc
    | @blocked stage r f _ hstage =>
      have hlt := current?_lt hstage
      have hpos : 0 < s.stages.length - s.cursor := by omega
      exact .stopped .nil hpos hstage hstep
  | @stepped s t w s' t' w' es rest hc hstep _ ih =>
    have hsteps := step_steps h subject s t w
    rw [hstep] at hsteps
    cases hsteps with
    | @passed stage r _ hstage =>
      have hlt := current?_lt hstage
      have hends := ih (underway_advance hstage)
      cases hends with
      | converged hclimb hn hphase =>
        have hcount := congrArg (· + 1) hn
        simp only [advance_stages, advance_cursor] at hcount
        exact .converged (.step hstep hclimb) (by omega) hphase
      | stopped hclimb hn hstage' hlast =>
        simp only [advance_stages, advance_cursor] at hn
        have hends' := RunEnds.stopped (.step hstep hclimb) (by omega) hstage' hlast
        simpa only [List.append_assoc] using hends'

theorem exists_stepCourse {stage : Stage World} (hphase : s.phase ≠ .idle)
    (hstage : s.current? = some stage) :
    ∃ vs, StepCourse h subject s t w vs (s.step h subject t w) ∧ (vs.map Visit.check).Nodup := by
  have hcalls {vs : List (Visit World)} {r : Ran World (Option Fault)}
      (hcourse : Course h subject (stage.checks s.cursor) t w vs r) : (vs.map Visit.check).Nodup :=
    (stage.checks_nodup s.cursor).sublist hcourse.finish.checks_prefix.sublist
  obtain ⟨r, hsweep, hstep⟩ := step_sweep h subject t w hphase hstage
  obtain ⟨vs, hcourse⟩ := hsweep.exists_course
  refine ⟨vs, ?_, hcalls hcourse⟩
  rcases hstep with ⟨hr, hstep⟩ | ⟨f, hr, hstep⟩
  · rw [hstep]
    exact .passed hstage hcourse hr
  · rw [hstep]
    exact .blocked hstage hcourse hr

theorem Underway.exists_runCourse (hs : Underway s) (h : Host World) (subject : Value) (t : Token)
    (w : World) :
    ∃ vs, RunCourse h subject s t w vs (s.run h subject t w) := by
  have hruns := run_runs h subject s t w
  obtain ⟨r, hsweep, hresult, htoken, hworld, hacts⟩ := hruns.sweep hs.started hs.cursor_le
  obtain ⟨vs, hcourse⟩ := hsweep.exists_course
  exact ⟨vs, ⟨r, hcourse, hresult, htoken, hworld, hacts⟩, hruns.ends_run hs⟩

theorem RunEnds.converged_of_none {ran : Stepped World} (hends : RunEnds h subject s t w ran)
    (hnone : ran.result.2 = none) : ran.result.1.phase = .converged := by
  cases hends with
  | converged _ _ hphase => exact hphase
  | stopped => simp at hnone

/-- A stepper that is idle or converged refuses to step and stays as it is. Any other stepper that is
reached, a blocked one too, calls the first controls of its current stage in a step, and in a run the
first of those of all its remaining stages; each is called once and in order, with the token unfired, up
to one that does not come back ready, and only then does the step or the run end with a fault. -/
theorem calls_in_order (hs : Reachable s) (h : Host World) (subject : Value) (t : Token) (w : World) :
    (s.phase = .idle → s.step h subject t w = ⟨(s, some (.misuse .idle)), t, w, []⟩) ∧
    (s.phase = .converged → s.step h subject t w = ⟨(s, some (.misuse .converged)), t, w, []⟩) ∧
    (s.phase ≠ .idle → s.phase ≠ .converged →
      (∃ vs, StepCourse h subject s t w vs (s.step h subject t w) ∧ (vs.map Visit.check).Nodup) ∧
      ∃ vs, RunCourse h subject s t w vs (s.run h subject t w) ∧
        vs.map Visit.check <+: s.remaining ∧ (vs.map Visit.check).Nodup ∧
        ((s.run h subject t w).result.2 = none →
          vs.map Visit.check = s.remaining ∧ (s.run h subject t w).result.1.phase = .converged) ∧
        ∀ why, (s.run h subject t w).result.2 = some (.misuse why) →
          ∃ v ∈ vs, (v.ran h subject).result = .error (.misuse why)) := by
  obtain ⟨owner, moves, hsound⟩ := hs.exists_sound
  refine ⟨?_, ?_, ?_⟩
  · intro hidle
    simp [step, hidle]
  · intro hconverged
    obtain ⟨-, hnone⟩ := hsound.converged_iff_current.mp hconverged
    simp [step, hconverged, hnone]
  · intro hidle hconverged
    obtain ⟨stage, hstage⟩ := hs.exists_current hidle hconverged
    obtain ⟨vs, hcourse⟩ := (hs.underway hidle).exists_runCourse h subject t w
    obtain ⟨r, hchecks, hresult, -⟩ := hcourse.course
    have hfinish := hchecks.finish
    rw [hresult] at hfinish
    have hprefix := hfinish.checks_prefix
    refine ⟨exists_stepCourse hidle hstage, vs, hcourse, hprefix, ?_, ?_, ?_⟩
    · exact (checksFrom_nodup _ _).sublist hprefix.sublist
    · intro hnone
      rw [hnone] at hfinish
      exact ⟨hfinish.checks_eq, hcourse.ends.converged_of_none hnone⟩
    · intro why hwhy
      rw [hwhy] at hfinish
      exact hfinish.misuse

open Reconciler (threeStages findsAll)

/-- A stepper before three stages, blocked by a step that found the token cancelled. -/
def blockedStepper : Stepper Unit :=
  [.restart (.map false []) threeStages, .step findsAll (.map false []) Token.quiet.cancel ()].foldl call
    (new none)

/-- When the step is tried again with another token, the first stage is passed. -/
theorem blocked_calls :
    Reachable blockedStepper ∧ blockedStepper.phase = .blocked ∧
      (∃ vs, StepCourse findsAll (.map false []) blockedStepper .quiet () vs
        (blockedStepper.step findsAll (.map false []) .quiet ())) ∧
      (blockedStepper.step findsAll (.map false []) .quiet ()).result.1.cursor = 1 ∧
      ∃ vs, RunCourse findsAll (.map false []) blockedStepper .quiet () vs
        (blockedStepper.run findsAll (.map false []) .quiet ()) := by
  have hreached : Reachable blockedStepper := ⟨none, _, rfl⟩
  have hphase : blockedStepper.phase = .blocked := rfl
  obtain ⟨-, -, hcalls⟩ := calls_in_order hreached findsAll (.map false []) .quiet ()
  obtain ⟨⟨vs, hstep, -⟩, vs', hrun, -⟩ := hcalls (by rw [hphase]; decide) (by rw [hphase]; decide)
  exact ⟨hreached, hphase, ⟨vs, hstep⟩, rfl, vs', hrun⟩

end Stepper
end StageGate
