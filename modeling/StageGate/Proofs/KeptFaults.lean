import Mathlib.Data.List.Basic
import StageGate.Proofs.StepperHistory
import StageGate.Proofs.StoppingPlace

/-!
The fault that a stepper keeps. It is that of the latest step that was stopped at its controls, up to the
next start; it is kept also when that stage has been passed since. So a stepper with a fault is blocked just
if it has passed no stage since then, as after any run that begins with a start.
-/

namespace StageGate
namespace Stepper

/-- The kinds of moves, with the fault that they raise at the controls and the stepper that they leave. -/
inductive Moved {World : Type} (s : Stepper World) :
    Move World → Option Fault → Stepper World → Prop where
  | started (subject stages) : Moved s (.restart subject stages) none (s.restart subject stages)
  | refused (h subject t w) : Moved s (.step h subject t w) none s
  | stopped (h subject t w f) : Moved s (.step h subject t w) (some f) (s.block f)
  | passed (h subject t w) : Moved s (.step h subject t w) none s.advance

/-- The latest step among the moves that was stopped at its controls, if the stepper has not been started
since: it raised the fault, with the cursor at the place. -/
def LastStop {World : Type} (s : Stepper World) (moves : List (Move World)) (f : Fault) (place : Nat) :
    Prop :=
  ∃ before m after, moves = before ++ m :: after ∧ (s.replay before).raised m = some f ∧
    (s.replay before).cursor = place ∧ (∀ later ∈ after, later.isRestart = false) ∧
    (s.replay (before ++ [m])).raisedIn after = []

/-- A stepper keeps the fault of the latest stop, and is blocked while its cursor stays at the place. -/
structure KeepsLast {World : Type} (s : Stepper World) (moves : List (Move World)) : Prop where
  fault_iff : ∀ f, (s.replay moves).lastFault = some f ↔ ∃ place, LastStop s moves f place
  blocked_iff : (s.replay moves).phase = .blocked ↔ ∃ f, LastStop s moves f (s.replay moves).cursor

variable {World : Type} {s : Stepper World} {moves : List (Move World)} {f g : Fault}
  {place place' : Nat}

@[simp] theorem restart_lastFault (s : Stepper World) (subject : Value) (stages : List (Stage World)) :
    (s.restart subject stages).lastFault = none := rfl

@[simp] theorem advance_lastFault : s.advance.lastFault = s.lastFault := rfl

theorem move_moved (s : Stepper World) (m : Move World) : Moved s m (s.raised m) (s.move m) := by
  cases m with
  | restart subject stages => exact .started subject stages
  | step h subject t w =>
    have hsteps := step_steps h subject s t w
    simp only [raised, move]
    generalize s.step h subject t w = ran at hsteps
    cases hsteps with
    | idle hp => simpa [hp] using Moved.refused h subject t w
    | spent hp hc => simpa [hp, hc] using Moved.refused h subject t w
    | blocked hp hc => simpa [hp, hc] using Moved.stopped h subject t w _
    | passed hp hc => simpa [hp, hc] using Moved.passed h subject t w

theorem raisedIn_concat (s : Stepper World) (moves : List (Move World)) (m : Move World) :
    s.raisedIn (moves ++ [m]) = s.raisedIn moves ++ ((s.replay moves).raised m).toList := by
  simp [raisedIn_append, raisedIn]

theorem replay_concat (s : Stepper World) (moves : List (Move World)) (m : Move World) :
    s.replay (moves ++ [m]) = (s.replay moves).move m := by
  simp [replay_append]

theorem replay_middle (s : Stepper World) (before after : List (Move World)) (m : Move World) :
    s.replay (before ++ m :: after) = (s.replay (before ++ [m])).replay after := by
  simp [replay_append]

theorem not_lastStop_nil : ¬ LastStop s [] f place := by
  rintro ⟨before, m, after, hmoves, -⟩
  simp at hmoves

/-- The latest stop is that of the last move, or else that of the moves before. -/
theorem lastStop_concat {m : Move World} :
    LastStop s (moves ++ [m]) f place ↔
      ((s.replay moves).raised m = some f ∧ (s.replay moves).cursor = place) ∨
        (m.isRestart = false ∧ (s.replay moves).raised m = none ∧ LastStop s moves f place) := by
  constructor
  · rintro ⟨before, m', after, hmoves, hraised, hplace, hlater, hnone⟩
    rcases List.eq_nil_or_concat' after with rfl | ⟨after, last, rfl⟩
    · obtain ⟨rfl, hm⟩ := List.append_inj' hmoves rfl
      obtain rfl : m = m' := by simpa using hm
      exact .inl ⟨hraised, hplace⟩
    · have hsplit : moves ++ [m] = (before ++ m' :: after) ++ [last] := by simpa using hmoves
      obtain ⟨rfl, hm⟩ := List.append_inj' hsplit rfl
      obtain rfl : m = last := by simpa using hm
      rw [raisedIn_concat, ← replay_middle, List.append_eq_nil_iff] at hnone
      refine .inr ⟨hlater m (by simp), by simpa using hnone.2, before, m', after, rfl, hraised, hplace,
        fun later hmem => hlater later (by simp [hmem]), hnone.1⟩
  · rintro (⟨hraised, hplace⟩ | ⟨hstep, hnone, before, m', after, rfl, hraised, hplace, hlater, hstops⟩)
    · exact ⟨moves, m, [], rfl, hraised, hplace, by simp, rfl⟩
    · refine ⟨before, m', after ++ [m], by simp, hraised, hplace, ?_, ?_⟩
      · simpa [or_imp, forall_and, hstep] using hlater
      · rw [raisedIn_concat, ← replay_middle, hstops, hnone]
        rfl

/-- A step that raises nothing leaves the latest stop as it is. -/
theorem lastStop_concat_quiet {m : Move World} (hm : m.isRestart = false)
    (hnone : (s.replay moves).raised m = none) :
    LastStop s (moves ++ [m]) f place ↔ LastStop s moves f place := by
  simp [lastStop_concat, hm, hnone]

theorem LastStop.unique (hf : LastStop s moves f place) (hg : LastStop s moves g place') :
    f = g ∧ place = place' := by
  induction moves using List.reverseRecOn with
  | nil => exact absurd hf not_lastStop_nil
  | append_singleton moves m ih =>
    rcases lastStop_concat.mp hf with ⟨hraised, rfl⟩ | ⟨-, hnone, hf'⟩
    · rcases lastStop_concat.mp hg with ⟨hraised', rfl⟩ | ⟨-, hnone, -⟩
      · exact ⟨Option.some.inj (hraised.symm.trans hraised'), rfl⟩
      · simp [hraised] at hnone
    · rcases lastStop_concat.mp hg with ⟨hraised, -⟩ | ⟨-, -, hg'⟩
      · simp [hraised] at hnone
      · exact ih hf' hg'

/-- The cursor is not moved back behind the latest stop. -/
theorem LastStop.place_le (hf : LastStop s moves f place) : place ≤ (s.replay moves).cursor := by
  induction moves using List.reverseRecOn with
  | nil => exact absurd hf not_lastStop_nil
  | append_singleton moves m ih =>
    have hm := move_moved (s.replay moves) m
    rw [replay_concat]
    rcases lastStop_concat.mp hf with ⟨hraised, rfl⟩ | ⟨hstep, -, hbefore⟩
    · rw [hraised] at hm
      generalize (s.replay moves).move m = after at hm ⊢
      cases hm with
      | stopped => exact Nat.le_refl _
    · refine Nat.le_trans (ih hbefore) ?_
      generalize (s.replay moves).move m = after at hm ⊢
      generalize (s.replay moves).raised m = raised at hm
      cases hm with
      | started => simp [Move.isRestart] at hstep
      | refused => exact Nat.le_refl _
      | stopped => exact Nat.le_refl _
      | passed => exact Nat.le_succ _

theorem keepsLast_nil (owner : Option String) : KeepsLast (new owner : Stepper World) [] where
  fault_iff f := by simp [new, not_lastStop_nil]
  blocked_iff := by simp [new, not_lastStop_nil]

/-- Each move carries the latest stop over, takes its place, or makes an end of it. -/
theorem KeepsLast.concat (hs : KeepsLast s moves) (m : Move World) : KeepsLast s (moves ++ [m]) := by
  have hm := move_moved (s.replay moves) m
  have hafter := replay_concat s moves m
  generalize hraised : (s.replay moves).raised m = raised at hm
  generalize (s.replay moves).move m = s' at hm hafter
  cases hm with
  | started subject stages =>
    have hnone (f : Fault) (place : Nat) :
        ¬ LastStop s (moves ++ [.restart subject stages]) f place := by
      simp [lastStop_concat, hraised, Move.isRestart]
    constructor
    · simp [hafter, hnone]
    · simp [hafter, hnone, restart_phase, phaseAt_ne_blocked]
  | refused h subject t w =>
    constructor
    · simpa only [hafter, lastStop_concat_quiet rfl hraised] using hs.fault_iff
    · simpa only [hafter, lastStop_concat_quiet rfl hraised] using hs.blocked_iff
  | stopped h subject t w f =>
    have hlast (g : Fault) (place : Nat) :
        LastStop s (moves ++ [.step h subject t w]) g place ↔
          f = g ∧ (s.replay moves).cursor = place := by
      simp [lastStop_concat, hraised]
    constructor
    · simp [hafter, hlast]
    · simp [hafter, hlast]
  | passed h subject t w =>
    constructor
    · simpa only [hafter, lastStop_concat_quiet rfl hraised, advance_lastFault] using hs.fault_iff
    · -- the cursor is now past the place of the latest stop
      have hpast (f : Fault) : ¬ LastStop s moves f ((s.replay moves).cursor + 1) := by
        intro hf
        exact absurd hf.place_le (Nat.not_succ_le_self _)
      simp [hafter, lastStop_concat_quiet rfl hraised, hpast, phaseAt_ne_blocked]

theorem keepsLast_replay (owner : Option String) (moves : List (Move World)) :
    KeepsLast (new owner) moves := by
  induction moves using List.reverseRecOn with
  | nil => exact keepsLast_nil owner
  | append_singleton moves m ih => exact ih.concat m

/-- The fault tells of what blocks the stepper now just if the cursor is still where it was stopped. -/
theorem KeepsLast.current_iff (hs : KeepsLast s moves) :
    ((s.replay moves).lastFault.isSome ↔ (s.replay moves).phase = .blocked) ↔
      ∀ f place, LastStop s moves f place → place = (s.replay moves).cursor := by
  rw [Option.isSome_iff_exists, hs.blocked_iff]
  simp only [hs.fault_iff]
  constructor
  · intro hcurrent f place hf
    obtain ⟨g, hg⟩ := hcurrent.mp ⟨f, place, hf⟩
    exact (hf.unique hg).2
  · intro hplace
    constructor
    · rintro ⟨f, place, hf⟩
      exact ⟨f, hplace f place hf ▸ hf⟩
    · rintro ⟨f, hf⟩
      exact ⟨f, _, hf⟩

/-- A run that begins with a start leaves a fault just if it leaves the stepper blocked. -/
theorem run_restart_current (s : Stepper World) (subject : Value) (stages : List (Stage World))
    (h : Host World) (subject' : Value) (t : Token) (w : World) :
    let ended := ((s.restart subject stages).run h subject' t w).result.1
    ended.lastFault.isSome ↔ ended.phase = .blocked := by
  have hends := (run_runs h subject' (s.restart subject stages) t w).ends
    (restart_phase s subject stages) (Nat.zero_le _)
  generalize ((s.restart subject stages).run h subject' t w).result = result at hends
  cases hends with
  | converged => simp
  | blocked => simp

/-- After any moves that any calls on a new stepper come to: the stepper keeps the fault of the latest stop
since it was started, and it is blocked just if its cursor is still at the place of that stop. So it has a
fault just if it is blocked, unless it has passed a stage since that stop; a run that begins with a start
ends with the two in step. -/
theorem lastFault_of_lastStop (owner : Option String) (calls : List (Call World)) :
    let moves := (new owner).movesOf calls
    let after : Nat → Stepper World := fun n => (new owner).replay (moves.take n)
    after moves.length = calls.foldl call (new owner) ∧
    ∀ n,
      (∀ f, (after n).lastFault = some f ↔ ∃ place, LastStop (new owner) (moves.take n) f place) ∧
      ((after n).phase = .blocked ↔ ∃ f, LastStop (new owner) (moves.take n) f (after n).cursor) ∧
      (((after n).lastFault.isSome ↔ (after n).phase = .blocked) ↔
        ∀ f place, LastStop (new owner) (moves.take n) f place → place = (after n).cursor) ∧
      ∀ subject stages h subject' t w,
        let ended := (((after n).restart subject stages).run h subject' t w).result.1
        ended.lastFault.isSome ↔ ended.phase = .blocked := by
  intro moves after
  refine ⟨?_, fun n => ?_⟩
  · simp only [after, moves, List.take_length]
    exact replay_movesOf (new owner) calls
  · have hkeeps := keepsLast_replay owner (moves.take n)
    exact ⟨hkeeps.fault_iff, hkeeps.blocked_iff, hkeeps.current_iff, run_restart_current (after n)⟩

/-! A stage whose only control is ready once the world says so. -/

def gate : Control Bool :=
  ⟨some "gate", fun _ _ _ t w => ⟨.ok (if w then .ready else .notReady), t, w, []⟩⟩

def gateStage : Stage Bool :=
  ⟨"gate", "gate", .empty, [gate], [], []⟩

def findsNothing : Host Bool :=
  ⟨fun _ => 0, fun l t w => (.error (.notFound l.kind l.name l.namespaceName), t, w)⟩

/-- The stage is tried while the gate is shut, and again once it is open. -/
def gateCalls : List (Call Bool) :=
  [.restart (.map false []) [gateStage], .step findsNothing (.map false []) .quiet false,
    .step findsNothing (.map false []) .quiet true]

/-- The converged stepper still has the fault of the gate that was shut. -/
theorem opened_gate_keeps_fault :
    ¬ ∀ (owner : Option String) (calls : List (Call Bool)),
      (calls.foldl call (new owner)).lastFault.isSome ↔
        (calls.foldl call (new owner)).phase = .blocked := by
  intro hcurrent
  have hphase : (gateCalls.foldl call (new none)).phase = .converged := rfl
  have hblocked := (hcurrent none gateCalls).mp rfl
  simp [hphase] at hblocked

end Stepper
end StageGate
