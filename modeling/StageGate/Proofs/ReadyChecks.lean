import Mathlib.Data.List.Nodup
import StageGate.Proofs.StoppingPlace

/-!
Which checks of a sweep are made and come back ready. All of them do where the sweep is passed, and where
it stops at a check these are the ones before it; so the cursor that a run leaves counts the stages in
front whose checks were all made and ready.
-/

namespace StageGate
variable {World : Type}

/-- In a sweep over checks the check is made, and it comes back ready. -/
inductive MadeReady (h : Host World) (subject : Value) :
    List (Check World) → Token → World → Check World → Prop where
  | here {c cs t w} (ht : t.fired (h.now w) = false) (hr : (c.run h subject t w).result = .ok .ready) :
      MadeReady h subject (c :: cs) t w c
  | later {c cs t w d} (ht : t.fired (h.now w) = false)
      (hr : (c.run h subject t w).result = .ok .ready)
      (hrest : MadeReady h subject cs (c.run h subject t w).token (c.run h subject t w).world d) :
      MadeReady h subject (c :: cs) t w d

/-- The first `n` of the stages have all their checks made and ready, and the next one, if there is one,
has a check that is not. -/
structure Leads (h : Host World) (subject : Value) (ss : List (Stage World)) (t : Token) (w : World)
    (n : Nat) : Prop where
  le : n ≤ ss.length
  ready : ∀ c ∈ checksFrom 0 ss, c.position < n → MadeReady h subject (checksFrom 0 ss) t w c
  wanting : n < ss.length →
    ∃ c ∈ checksFrom 0 ss, c.position = n ∧ ¬ MadeReady h subject (checksFrom 0 ss) t w c

variable {h : Host World} {subject : Value} {c : Check World} {cs : List (Check World)}
  {ss : List (Stage World)} {t : Token} {w : World} {p : Ran World (Option Fault)} {f : Fault}

theorem MadeReady.append (hc : MadeReady h subject cs t w c) (ds : List (Check World)) :
    MadeReady h subject (cs ++ ds) t w c := by
  induction hc with
  | here ht hr => exact .here ht hr
  | later ht hr _ ih => exact .later ht hr ih

theorem Passes.madeReady (hp : Passes h subject cs t w p) :
    ∀ c ∈ cs, MadeReady h subject cs t w c := by
  induction cs generalizing t w p with
  | nil => simp
  | cons c cs ih =>
    obtain ⟨ht, hr, rest, hrest, -⟩ := passes_cons.mp hp
    exact List.forall_mem_cons.mpr ⟨.here ht hr, fun d hd => .later ht hr (ih hrest d hd)⟩

/-- Where no check occurs twice, the one that a sweep stops at is not made and ready. -/
theorem StopsAt.not_madeReady (hc : StopsAt h subject cs t w c f) (hnodup : cs.Nodup) :
    ¬ MadeReady h subject cs t w c := by
  induction hc with
  | here hf =>
    rintro (⟨ht, hr⟩ | ⟨ht, hr, -⟩)
    · exact hf.not_ready ht hr
    · exact hf.not_ready ht hr
  | later _ _ hrest ih =>
    obtain ⟨hnew, hnodup'⟩ := List.nodup_cons.mp hnodup
    intro hready
    cases hready with
    | here => exact hnew hrest.mem
    | later _ _ hready' => exact ih hnodup' hready'

theorem Stage.checks_nodup (s : Stage World) (n : Nat) : (s.checks n).Nodup := by
  refine List.Nodup.of_map Check.index ?_
  have hindex : (s.checks n).map Check.index = s.controls.zipIdx.map Prod.snd := by
    rw [Stage.checks, List.map_map]
    rfl
  rw [hindex, List.zipIdx_map_snd]
  exact List.nodup_range'

theorem checksFrom_nodup (n : Nat) (ss : List (Stage World)) : (checksFrom n ss).Nodup := by
  induction ss generalizing n with
  | nil => exact List.nodup_nil
  | cons s ss ih =>
    rw [checksFrom_cons, List.nodup_append]
    refine ⟨s.checks_nodup n, ih (n + 1), fun c hc d hd heq => ?_⟩
    have hfirst := Stage.position_of_mem hc
    have hlater := ((checksFrom_pairwise (n + 1) ss).2 d hd).1
    rw [← heq] at hlater
    omega

end StageGate
