import Mathlib.Data.List.Induction
import StageGate.Proofs.Stepping

/-!
Histories of a stepper: any calls in any surroundings, taken apart into single moves. The main result
is an invariant of the stepper after every move, also after those inside a run.
-/

namespace StageGate
namespace Stepper

/-- A call on a stepper, with the surroundings it is made in. -/
inductive Call (World : Type) where
  | restart (subject : Value) (stages : List (Stage World))
  | step (h : Host World) (subject : Value) (t : Token) (w : World)
  | run (h : Host World) (subject : Value) (t : Token) (w : World)

/-- A stepper moves by starting over or by a single step. -/
inductive Move (World : Type) where
  | restart (subject : Value) (stages : List (Stage World))
  | step (h : Host World) (subject : Value) (t : Token) (w : World)

variable {World : Type}

def Move.isRestart : Move World → Bool
  | .restart .. => true
  | .step .. => false

def call (s : Stepper World) : Call World → Stepper World
  | .restart subject stages => s.restart subject stages
  | .step h subject t w => (s.step h subject t w).result.1
  | .run h subject t w => (s.run h subject t w).result.1

def move (s : Stepper World) : Move World → Stepper World
  | .restart subject stages => s.restart subject stages
  | .step h subject t w => (s.step h subject t w).result.1

def replay (s : Stepper World) (moves : List (Move World)) : Stepper World :=
  moves.foldl move s

/-- The steps of a run, each in the surroundings that the one before it leaves. -/
def runMoves (h : Host World) (subject : Value) :
    Nat → Stepper World → Token → World → List (Move World)
  | 0, _, _, _ => []
  | n + 1, s, t, w =>
    if s.isConverged then []
    else
      let ran := s.step h subject t w
      .step h subject t w ::
        match ran.result with
        | (_, some _) => []
        | (s', none) => runMoves h subject n s' ran.token ran.world

def movesIn (s : Stepper World) : Call World → List (Move World)
  | .restart subject stages => [.restart subject stages]
  | .step h subject t w => [.step h subject t w]
  | .run h subject t w => runMoves h subject (s.stages.length - s.cursor + 1) s t w

/-- The moves that calls come to, in order. -/
def movesOf (s : Stepper World) : List (Call World) → List (Move World)
  | [] => []
  | c :: cs => s.movesIn c ++ movesOf (s.call c) cs

/-- The fault of a step that has reached the controls of a stage. -/
def raised (s : Stepper World) : Move World → Option Fault
  | .restart .. => none
  | .step h subject t w =>
    if s.phase = .idle ∨ s.current?.isNone then none else (s.step h subject t w).result.2

/-- All such faults, in the order in which they were raised. -/
def raisedIn (s : Stepper World) : List (Move World) → List Fault
  | [] => []
  | m :: ms => (s.raised m).toList ++ raisedIn (s.move m) ms

@[simp] theorem replay_nil (s : Stepper World) : s.replay [] = s := rfl

@[simp] theorem replay_cons (s : Stepper World) (m : Move World) (ms : List (Move World)) :
    s.replay (m :: ms) = (s.move m).replay ms := rfl

theorem replay_append (s : Stepper World) (ms ns : List (Move World)) :
    s.replay (ms ++ ns) = (s.replay ms).replay ns :=
  List.foldl_append

theorem raisedIn_append (s : Stepper World) (ms ns : List (Move World)) :
    s.raisedIn (ms ++ ns) = s.raisedIn ms ++ (s.replay ms).raisedIn ns := by
  induction ms generalizing s with
  | nil => rfl
  | cons m ms ih => simp [raisedIn, ih]

theorem replay_runMoves (h : Host World) (subject : Value) (n : Nat) (s : Stepper World) (t : Token)
    (w : World) :
    s.replay (runMoves h subject n s t w) = (runFor h subject n s t w).result.1 := by
  induction n generalizing s t w with
  | zero => rfl
  | succ n ih =>
    unfold runMoves runFor
    cases hc : s.isConverged with
    | true => rfl
    | false =>
      rcases hs : s.step h subject t w with ⟨⟨s', _ | f⟩, t', w', es⟩
      · simpa [move, hs] using ih s' t' w'
      · simp [move, hs]

theorem replay_movesOf (s : Stepper World) (calls : List (Call World)) :
    s.replay (s.movesOf calls) = calls.foldl call s := by
  induction calls generalizing s with
  | nil => rfl
  | cons c calls ih =>
    have hc : s.replay (s.movesIn c) = s.call c := by
      cases c with
      | restart => rfl
      | step => rfl
      | run h subject t w => exact replay_runMoves h subject _ s t w
    rw [movesOf, replay_append, hc, ih, List.foldl_cons]

/-- What is known of a new stepper after some moves. -/
structure Sound (owner : Option String) (moves : List (Move World)) (s : Stepper World) : Prop where
  cursor_le : s.cursor ≤ s.stages.length
  idle_iff : s.phase = .idle ↔ ∀ m ∈ moves, m.isRestart = false
  converged_iff : s.phase = .converged ↔ s.phase ≠ .idle ∧ s.cursor = s.stages.length
  blocked_last : s.phase = .blocked → s.lastFault.isSome ∧
    s.lastFault = ((new owner).raisedIn moves).getLast?

theorem move_stages {s : Stepper World} (hs : s.stages ≠ []) (m : Move World) :
    (s.move m).stages = s.stages := by
  cases m with
  | restart subject stages => simp [move, restart_stages, hs]
  | step h subject t w => exact (step_steps h subject s t w).stages

theorem move_cursor (s : Stepper World) (m : Move World) : (s.move m).cursor ≤ s.cursor + 1 := by
  cases m with
  | restart => exact Nat.zero_le _
  | step h subject t w => exact (step_steps h subject s t w).cursor.2

theorem replay_stages {s : Stepper World} (hs : s.stages ≠ []) (moves : List (Move World)) :
    (s.replay moves).stages = s.stages := by
  induction moves generalizing s with
  | nil => rfl
  | cons m moves ih =>
    have hm := move_stages hs m
    rw [replay_cons, ih (hm ▸ hs), hm]

theorem cursor_le_replay (s : Stepper World) {moves : List (Move World)}
    (hmoves : ∀ m ∈ moves, m.isRestart = false) : s.cursor ≤ (s.replay moves).cursor := by
  induction moves generalizing s with
  | nil => exact Nat.le_refl _
  | cons m moves ih =>
    have hrest := ih (s.move m) fun m' hm' => hmoves m' (List.mem_cons_of_mem _ hm')
    cases m with
    | restart => simp [Move.isRestart] at hmoves
    | step h subject t w => exact Nat.le_trans (step_steps h subject s t w).cursor.1 hrest

theorem sound_new (owner : Option String) : Sound owner ([] : List (Move World)) (new owner) where
  cursor_le := Nat.zero_le _
  idle_iff := by simp [new]
  converged_iff := by simp [new]
  blocked_last := by simp [new]

theorem Sound.restart {owner : Option String} {moves : List (Move World)} {s : Stepper World}
    (subject : Value) (stages : List (Stage World)) :
    Sound owner (moves ++ [.restart subject stages]) (s.restart subject stages) where
  cursor_le := Nat.zero_le _
  idle_iff := by
    rw [restart_phase]
    simp [phaseAt_ne_idle, Move.isRestart]
  converged_iff := by
    rw [restart_phase]
    simp [phaseAt_ne_idle, phaseAt_eq_converged]
  blocked_last hb := absurd hb (phaseAt_ne_blocked 0)

theorem Sound.step {owner : Option String} {moves : List (Move World)} {s : Stepper World}
    (hsound : Sound owner moves s) (hs : (new owner).replay moves = s) (h : Host World)
    (subject : Value) (t : Token) (w : World) :
    Sound owner (moves ++ [.step h subject t w]) (s.step h subject t w).result.1 := by
  have hraised : ((new owner).raisedIn (moves ++ [.step h subject t w])) =
      (new owner).raisedIn moves ++ (s.raised (.step h subject t w)).toList := by
    simp [raisedIn_append, raisedIn, hs]
  have hidle : (∀ m ∈ moves ++ [.step h subject t w], m.isRestart = false) ↔
      ∀ m ∈ moves, m.isRestart = false := by
    simp [Move.isRestart, or_imp, forall_and]
  have hsteps := step_steps h subject s t w
  generalize hran : s.step h subject t w = ran at hsteps
  cases hsteps with
  | idle hp =>
    have hnone : s.raised (.step h subject t w) = none := by simp [raised, hp]
    exact ⟨hsound.cursor_le, hsound.idle_iff.trans hidle.symm, hsound.converged_iff,
      by simpa [hraised, hnone] using hsound.blocked_last⟩
  | spent hp hc =>
    have hnone : s.raised (.step h subject t w) = none := by simp [raised, hc]
    exact ⟨hsound.cursor_le, hsound.idle_iff.trans hidle.symm, hsound.converged_iff,
      by simpa [hraised, hnone] using hsound.blocked_last⟩
  | @blocked stage r f hp hc _ _ =>
    have hsome : s.raised (.step h subject t w) = some f := by simp [raised, hp, hc, hran]
    have hlt := current?_lt hc
    refine ⟨hsound.cursor_le, ?_, ?_, ?_⟩
    · rw [hidle, ← hsound.idle_iff]
      simp [hp]
    · have hne : s.cursor ≠ s.stages.length := by omega
      simp [hne]
    · simp [hraised, hsome]
  | @passed stage r hp hc _ _ =>
    have hlt := current?_lt hc
    refine ⟨hlt, ?_, ?_, ?_⟩
    · rw [hidle, ← hsound.idle_iff]
      simp [hp, phaseAt_ne_idle]
    · simp [phaseAt_ne_idle, phaseAt_eq_converged]
    · intro hb
      exact absurd hb (phaseAt_ne_blocked _)

theorem sound_replay (owner : Option String) (moves : List (Move World)) :
    Sound owner moves ((new owner).replay moves) := by
  induction moves using List.reverseRecOn with
  | nil => exact sound_new owner
  | append_singleton moves m ih =>
    rw [replay_append]
    cases m with
    | restart subject stages => exact Sound.restart subject stages
    | step h subject t w => exact ih.step rfl h subject t w

theorem Sound.isConverged_iff {owner : Option String} {moves : List (Move World)} {s : Stepper World}
    (hsound : Sound owner moves s) : s.isConverged = true ↔ s.phase = .converged := by
  rw [Stepper.isConverged_iff, hsound.converged_iff]

theorem Sound.converged_iff_current {owner : Option String} {moves : List (Move World)}
    {s : Stepper World} (hsound : Sound owner moves s) :
    s.phase = .converged ↔ s.phase ≠ .idle ∧ s.current? = none := by
  rw [hsound.converged_iff, current?_eq_none]
  have hle := hsound.cursor_le
  exact and_congr_right fun _ => ⟨fun he => Nat.le_of_eq he.symm, fun hge => Nat.le_antisymm hle hge⟩

theorem Sound.cursor_lt_of_blocked {owner : Option String} {moves : List (Move World)}
    {s : Stepper World} (hsound : Sound owner moves s) (hb : s.phase = .blocked) :
    s.cursor < s.stages.length := by
  have hle := hsound.cursor_le
  have hne : s.cursor ≠ s.stages.length := by
    intro he
    have hc := hsound.converged_iff.mpr ⟨by simp [hb], he⟩
    simp [hb] at hc
  omega

/-- After any moves that any calls on a new stepper come to: the cursor lies within the stages; the
stepper is idle exactly until it is first started; it is converged exactly when no stage is left; a
blocked stepper has a stage left and keeps the latest fault of a step that reached its controls;
stages once taken on are kept; and between two starts the cursor only rises, by one for a step. -/
theorem calls_invariant (owner : Option String) (calls : List (Call World)) :
    let moves := (new owner).movesOf calls
    let after : Nat → Stepper World := fun n => (new owner).replay (moves.take n)
    after moves.length = calls.foldl call (new owner) ∧
    ∀ n,
      (after n).cursor ≤ (after n).stages.length ∧
      ((after n).phase = .idle ↔ ∀ m ∈ moves.take n, m.isRestart = false) ∧
      ((after n).isConverged = true ↔ (after n).phase = .converged) ∧
      ((after n).phase = .converged ↔ (after n).phase ≠ .idle ∧ (after n).current? = none) ∧
      ((after n).phase = .blocked → (after n).cursor < (after n).stages.length ∧
        (after n).lastFault.isSome ∧
        (after n).lastFault = ((new owner).raisedIn (moves.take n)).getLast?) ∧
      (∀ k, (after n).stages ≠ [] → (after (n + k)).stages = (after n).stages) ∧
      (∀ k, (∀ m ∈ (moves.drop n).take k, m.isRestart = false) →
        (after n).cursor ≤ (after (n + k)).cursor) ∧
      (after (n + 1)).cursor ≤ (after n).cursor + 1 := by
  intro moves after
  refine ⟨?_, fun n => ?_⟩
  · simp only [after, moves, List.take_length]
    exact replay_movesOf (new owner) calls
  have hsound : Sound owner (moves.take n) (after n) := sound_replay owner (moves.take n)
  have hlater (k : Nat) : after (n + k) = (after n).replay ((moves.drop n).take k) := by
    simp only [after, List.take_add, replay_append]
  refine ⟨hsound.cursor_le, hsound.idle_iff, hsound.isConverged_iff, hsound.converged_iff_current,
    fun hb => ⟨hsound.cursor_lt_of_blocked hb, hsound.blocked_last hb⟩, ?_, ?_, ?_⟩
  · intro k hne
    rw [hlater]
    exact replay_stages hne _
  · intro k hsteps
    rw [hlater]
    exact cursor_le_replay _ hsteps
  · rw [hlater]
    rcases (moves.drop n) with _ | ⟨m, rest⟩
    · simp
    · simpa using move_cursor (after n) m

end Stepper
end StageGate
