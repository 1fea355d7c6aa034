import StageGate.Proofs.AddedObjects
import StageGate.Proofs.ReconcileOutcome
import StageGate.Proofs.StoppingPlace

/-!
The alarms of the engine: its records above the level of information. Beside what the source of the stages
and the controls may record themselves, a reconcile ends in one alarm at most, a warning for an instance that
cannot be fetched, and an error for stages that cannot be loaded or for a control that raises a fault.
-/

namespace StageGate

namespace Event

/-- Records of the engine above the level of information. -/
def isAlarm (e : Event) : Bool :=
  e.logger == "kubestage.engine" && (e.level == .warning || e.level == .error)

end Event

/-- The alarms among the effects. -/
def alarms (es : List Effect) : List Event :=
  (es.filterMap Effect.event?).filter Event.isAlarm

@[simp] theorem alarms_append (es fs : List Effect) : alarms (es ++ fs) = alarms es ++ alarms fs := by
  simp [alarms]

@[simp] theorem alarms_lookup (l : Lookup) (es : List Effect) : alarms (.lookup l :: es) = alarms es := rfl

theorem alarms_logged (e : Event) (es : List Effect) :
    alarms (.logged e :: es) = [e].filter Event.isAlarm ++ alarms es :=
  List.filter_append [e] _

@[simp] theorem alarms_map_logged (events : List Event) :
    alarms (events.map .logged) = events.filter Event.isAlarm := by
  have hevents : (events.map Effect.logged).filterMap Effect.event? = events := by
    rw [List.filterMap_map]
    exact List.filterMap_some
  rw [alarms, hevents]

/-- Whether the effect is a record that is an alarm. -/
def Effect.isAlarm (e : Effect) : Bool :=
  e.event?.any Event.isAlarm

theorem alarms_filter (es : List Effect) : alarms (es.filter Effect.isAlarm) = alarms es := by
  induction es with
  | nil => rfl
  | cons e es ih =>
    cases e with
    | lookup | began | called => exact ih
    | logged e =>
      cases he : e.isAlarm with
      | false =>
        rw [List.filter_cons_of_neg (by simp [Effect.isAlarm, Effect.event?, he]), ih, alarms_logged]
        simp [he]
      | true =>
        rw [List.filter_cons_of_pos (by simp [Effect.isAlarm, Effect.event?, he]), alarms_logged,
          alarms_logged, ih]

section
variable {World : Type} {h : Host World} {subject : Value} {cs : List (Check World)} {c : Check World}
  {ss : List (Stage World)} {t : Token} {w : World} {f : Fault}

/-- Any other fault than those of waiting and of the token is raised by a control. -/
theorem StopsAt.raisedAt (hc : StopsAt h subject cs t w c f) (hnotReady : f.isNotReady = false)
    (hcancelled : f.isCancelled = false) : RaisedAt h subject cs t w c f := by
  obtain ⟨before, after, p, hsplit, hp, hf⟩ := hc.exists_split
  cases hf with
  | cancelled => cases hcancelled
  | refused => cases hnotReady
  | raised ht hr => exact ⟨before, after, p, hsplit, hp, ht, hr⟩

theorem getElem?_position (hc : c ∈ checksFrom 0 ss) : ss[c.position]? = some c.stage := by
  obtain ⟨before, after, hsplit⟩ := List.append_of_mem hc
  obtain ⟨earlier, later, rfl, hposition, -⟩ := checksFrom_split hsplit
  simp [hposition]

end

namespace Reconciler
variable {World : Type}

/-- What the source of the stages and the controls record themselves in the course of a reconcile. -/
inductive Elsewhere (settings : Settings World) (h : Host World) (c : Catalog World) (i : Identity)
    (t : Token) (w : World) : List Event → Prop where
  | cancelled (ht : t.fired (h.now w) = true) : Elsewhere settings h c i t w []
  | unfetched {f t' w'} (ht : t.fired (h.now w) = false)
      (hg : h.get (instanceLookup settings i) t w = (.error f, t', w')) :
      Elsewhere settings h c i t w []
  | unloaded {subject t' w' f} (ht : t.fired (h.now w) = false)
      (hg : h.get (instanceLookup settings i) t w = (.ok subject, t', w'))
      (hl : (c.stages settings.source w').2.result = .error f) :
      Elsewhere settings h c i t w (c.stages settings.source w').2.events
  | swept {subject t' w' ss r} (ht : t.fired (h.now w) = false)
      (hg : h.get (instanceLookup settings i) t w = (.ok subject, t', w'))
      (hl : (c.stages settings.source w').2.result = .ok ss)
      (hs : Sweep h subject (checksFrom 0 ss) t' w' r) :
      Elsewhere settings h c i t w
        ((c.stages settings.source w').2.events ++ r.effects.filterMap Effect.event?)

/-- The failures that the engine has to raise an alarm for, each with the level and the record of it. -/
inductive Alarm (settings : Settings World) (h : Host World) (c : Catalog World) (i : Identity)
    (t : Token) (w : World) : Level → Event → Prop where
  | fetch {f t' w'} (ht : t.fired (h.now w) = false)
      (hg : h.get (instanceLookup settings i) t w = (.error f, t', w'))
      (hgone : f.isNotFound = false) (hcancelled : f.isCancelled = false) :
      Alarm settings h c i t w .warning (.fetchFailed i f)
  | load {subject t' w' f} (ht : t.fired (h.now w) = false)
      (hg : h.get (instanceLookup settings i) t w = (.ok subject, t', w'))
      (hl : (c.stages settings.source w').2.result = .error f) :
      Alarm settings h c i t w .error (.loadFailed i f)
  | control {subject t' w' ss check f} (ht : t.fired (h.now w) = false)
      (hg : h.get (instanceLookup settings i) t w = (.ok subject, t', w'))
      (hl : (c.stages settings.source w').2.result = .ok ss)
      (hraised : RaisedAt h subject (checksFrom 0 ss) t' w' check f)
      (hnotReady : f.isNotReady = false) (hcancelled : f.isCancelled = false) :
      Alarm settings h c i t w .error (.checkFailed i (some check.stage.name) f)

variable {settings : Settings World} {h : Host World} {c : Catalog World} {r : Reconciler World}
  {i : Identity} {t t' : Token} {w w' : World} {subject : Value} {ss : List (Stage World)} {f : Fault}
  {level : Level} {e : Event}

/-! The alarm of each exit. -/

theorem not_alarm_of_fired (ht : t.fired (h.now w) = true) : ¬ Alarm settings h c i t w level e := by
  intro ha
  cases ha with
  | fetch ht' | load ht' | control ht' => simp [ht] at ht'

theorem alarm_iff_of_unfetched (ht : t.fired (h.now w) = false)
    (hg : h.get (instanceLookup settings i) t w = (.error f, t', w')) :
    Alarm settings h c i t w level e ↔ (f.isNotFound || f.isCancelled) = false ∧
      level = .warning ∧ e = .fetchFailed i f := by
  rw [Bool.or_eq_false_iff]
  constructor
  · intro ha
    cases ha with
    | fetch _ hg' hgone hcancelled =>
      cases hg.symm.trans hg'
      exact ⟨⟨hgone, hcancelled⟩, rfl, rfl⟩
    | load _ hg' | control _ hg' => cases hg.symm.trans hg'
  · rintro ⟨⟨hgone, hcancelled⟩, rfl, rfl⟩
    exact .fetch ht hg hgone hcancelled

theorem alarm_iff_of_unloaded (ht : t.fired (h.now w) = false)
    (hg : h.get (instanceLookup settings i) t w = (.ok subject, t', w'))
    (hl : (c.stages settings.source w').2.result = .error f) :
    Alarm settings h c i t w level e ↔ level = .error ∧ e = .loadFailed i f := by
  constructor
  · intro ha
    cases ha with
    | fetch _ hg' => cases hg.symm.trans hg'
    | load _ hg' hl' =>
      cases hg.symm.trans hg'
      cases hl.symm.trans hl'
      exact ⟨rfl, rfl⟩
    | control _ hg' hl' =>
      cases hg.symm.trans hg'
      cases hl.symm.trans hl'
  · rintro ⟨rfl, rfl⟩
    exact .load ht hg hl

theorem alarm_iff_of_loaded (ht : t.fired (h.now w) = false)
    (hg : h.get (instanceLookup settings i) t w = (.ok subject, t', w'))
    (hl : (c.stages settings.source w').2.result = .ok ss) :
    Alarm settings h c i t w level e ↔ ∃ check f, StopsAt h subject (checksFrom 0 ss) t' w' check f ∧
      (f.isNotReady || f.isCancelled) = false ∧ level = .error ∧
        e = .checkFailed i (some check.stage.name) f := by
  simp only [Bool.or_eq_false_iff]
  constructor
  · intro ha
    cases ha with
    | fetch _ hg' => cases hg.symm.trans hg'
    | load _ hg' hl' =>
      cases hg.symm.trans hg'
      cases hl.symm.trans hl'
    | control _ hg' hl' hraised hnotReady hcancelled =>
      cases hg.symm.trans hg'
      cases hl.symm.trans hl'
      exact ⟨_, _, hraised.stopsAt, ⟨hnotReady, hcancelled⟩, rfl, rfl⟩
  · rintro ⟨check, f, hstop, ⟨hnotReady, hcancelled⟩, rfl, rfl⟩
    exact .control ht hg hl (hstop.raisedAt hnotReady hcancelled) hnotReady hcancelled

theorem alarm_iff_of_stopped (ht : t.fired (h.now w) = false)
    (hg : h.get (instanceLookup settings i) t w = (.ok subject, t', w'))
    (hl : (c.stages settings.source w').2.result = .ok ss) {check : Check World}
    (hstop : StopsAt h subject (checksFrom 0 ss) t' w' check f) :
    Alarm settings h c i t w level e ↔ (f.isNotReady || f.isCancelled) = false ∧ level = .error ∧
      e = .checkFailed i (some check.stage.name) f := by
  rw [alarm_iff_of_loaded ht hg hl]
  constructor
  · rintro ⟨check', f', hstop', halarm⟩
    obtain ⟨rfl, rfl⟩ := hstop.deterministic hstop'
    exact halarm
  · intro halarm
    exact ⟨check, f, hstop, halarm⟩

/-! The records of each exit. -/

theorem unfetched_alarms (r : Reconciler World) (i : Identity) (f : Fault) :
    [(unfetched r i f).2.2].filter Event.isAlarm =
      if f.isNotFound || f.isCancelled then [] else [.fetchFailed i f] := by
  unfold unfetched
  cases f.isNotFound <;> cases f.isCancelled <;> rfl

theorem stopEvent_alarms (i : Identity) (s : Stepper World) (f : Fault) :
    [stopEvent i s f].filter Event.isAlarm =
      if f.isNotReady || f.isCancelled then [] else [.checkFailed i (s.current?.map (·.name)) f] := by
  unfold stopEvent
  cases f.isNotReady <;> cases f.isCancelled <;> rfl

theorem load_alarms_of_error (h : Host World) (i : Identity) (subject : Value) (t : Token)
    (hl : (r.catalog.stages settings.source w).2.result = .error f) (hdecode : f.isDecode = true) :
    alarms (r.load settings h i subject t w).effects =
      (r.catalog.stages settings.source w).2.events.filter Event.isAlarm ++ [.loadFailed i f] := by
  unfold load
  simp only [hl, hdecode, if_true, alarms_append, alarms_map_logged]
  rfl

theorem apply_alarms (r : Reconciler World) (i : Identity) (subject : Value) (ss : List (Stage World))
    (t : Token) (w : World) :
    let ran := ((r.registry.get i).restart subject ss).run h subject t w
    alarms (r.apply h i subject ss t w).effects = alarms ran.effects ++
      ran.result.2.elim [] fun f => [stopEvent i ran.result.1 f].filter Event.isAlarm := by
  unfold apply
  rcases ((r.registry.get i).restart subject ss).run h subject t w with ⟨⟨s, _ | f⟩, t', w', es⟩
  · exact alarms_append es _
  · exact alarms_append es _

theorem load_alarms_of_ok (h : Host World) (i : Identity) (subject : Value) (t : Token)
    (hl : (r.catalog.stages settings.source w).2.result = .ok ss) {ran : Stepper.Stepped World}
    (hran : ((r.registry.get i).restart subject ss).run h subject t w = ran) :
    alarms (r.load settings h i subject t w).effects =
      ((r.catalog.stages settings.source w).2.events.filter Event.isAlarm ++ alarms ran.effects) ++
        ran.result.2.elim [] fun f => [stopEvent i ran.result.1 f].filter Event.isAlarm := by
  subst hran
  simp only [load_of_ok hl, alarms_append, alarms_map_logged, apply_alarms, List.append_assoc]

/-- The run of a reconcile has the alarms of a sweep over the checks of all stages. It passes them, or it
stops at a check and stays at the stage of that check. -/
theorem Coherent.run_ends (hr : Coherent settings r) (hsource : settings.source.Steady ss)
    (h : Host World) (i : Identity) (subject : Value) (t : Token) (w : World) :
    let ran := ((r.registry.get i).restart subject ss).run h subject t w
    ∃ swept, Sweep h subject (checksFrom 0 ss) t w swept ∧ alarms ran.effects = alarms swept.effects ∧
      (ran.result.2 = none ∧ (∀ check f, ¬ StopsAt h subject (checksFrom 0 ss) t w check f) ∨
        ∃ check f, ran.result.2 = some f ∧ StopsAt h subject (checksFrom 0 ss) t w check f ∧
          ran.result.1.current? = some check.stage) := by
  intro ran
  let s := (r.registry.get i).restart subject ss
  have hstages : s.stages = ss := hr.restart_steady hsource i subject
  have hremaining : s.remaining = checksFrom 0 ss := hr.restart_remaining hsource i subject
  have hruns : Stepper.Runs h subject s t w ran := Stepper.run_runs h subject s t w
  have hphase : s.phase = s.phaseAt s.cursor := Stepper.restart_phase ..
  have hstarted : s.phase ≠ .idle := hphase ▸ Stepper.phaseAt_ne_idle _
  obtain ⟨swept, hsweep, -, -, -, hkept⟩ := hruns.sweep_filter hstarted (Nat.zero_le _)
  have hends := hruns.ends hphase (Nat.zero_le _)
  rw [hremaining] at hsweep
  refine ⟨swept, hsweep, ?_, ?_⟩
  · -- the run and the sweep differ only in the records of stages that are passed, which are no alarms
    rw [← alarms_filter ran.effects, ← alarms_filter swept.effects,
      hkept Effect.isAlarm fun _ _ _ _ => rfl]
  · generalize ran.result = result at hends
    cases hends with
    | converged hp =>
      rw [hremaining] at hp
      exact .inl ⟨rfl, fun check f hstop => hstop.not_passes hp⟩
    | blocked hstop =>
      rw [hremaining] at hstop
      refine .inr ⟨_, _, rfl, hstop, ?_⟩
      rw [← getElem?_position hstop.mem, ← hstages]
      rfl

/-- A reconcile raises one alarm after what is recorded elsewhere, unless it is quiet, and it is the one that
it has to raise. -/
def EndsIn (settings : Settings World) (h : Host World) (c : Catalog World) (i : Identity) (t : Token)
    (w : World) (es : List Effect) (quiet : Bool) (last : Event) : Prop :=
  (∃ others, Elsewhere settings h c i t w others ∧
    alarms es = others.filter Event.isAlarm ++ if quiet then [] else [last]) ∧
  ∀ level e, Alarm settings h c i t w level e ↔ quiet = false ∧ level = last.level ∧ e = last

theorem Coherent.loaded_endsIn (hr : Coherent settings r) (hsource : settings.source.Steady ss)
    (ht : t.fired (h.now w) = false)
    (hg : h.get (instanceLookup settings i) t w = (.ok subject, t', w'))
    (hl : (c.stages settings.source w').2.result = .ok ss) :
    ∃ quiet last, EndsIn settings h c i t w
      ((Reconciler.mk c r.registry).reconcileWith settings h i t w).effects quiet last := by
  rw [reconcileWith_fetched ht hg]
  obtain ⟨swept, hsweep, hswept, hends⟩ := hr.run_ends hsource h i subject t' w'
  have hothers := Elsewhere.swept ht hg hl hsweep
  have halarms := load_alarms_of_ok (r := ⟨c, r.registry⟩) h i subject t' hl rfl
  have hjoin : ((c.stages settings.source w').2.events ++
      swept.effects.filterMap Effect.event?).filter Event.isAlarm =
        (c.stages settings.source w').2.events.filter Event.isAlarm ++ alarms swept.effects :=
    List.filter_append ..
  rw [hswept, ← hjoin] at halarms
  rcases hends with ⟨hnone, hpassed⟩ | ⟨check, f, hsome, hstop, hcurrent⟩
  · refine ⟨true, .applying i, ⟨_, hothers, ?_⟩, fun level e => ?_⟩
    · rw [hnone] at halarms
      exact halarms
    · rw [alarm_iff_of_loaded ht hg hl]
      simp [hpassed]
  · refine ⟨f.isNotReady || f.isCancelled, .checkFailed i (some check.stage.name) f, ⟨_, hothers, ?_⟩,
      fun level e => alarm_iff_of_stopped ht hg hl hstop⟩
    rw [hsome, Option.elim_some, stopEvent_alarms, hcurrent] at halarms
    exact halarms

theorem Coherent.reconcileWith_endsIn (hr : Coherent settings r) (hsource : settings.source.Steady ss)
    (hc : c.kept = none ∨ c.kept = some ss) (h : Host World) (i : Identity) (t : Token) (w : World) :
    ∃ quiet last, EndsIn settings h c i t w
      ((Reconciler.mk c r.registry).reconcileWith settings h i t w).effects quiet last := by
  cases ht : t.fired (h.now w) with
  | true =>
    -- a quiet end names any record as the last one
    rw [reconcileWith_cancelled ht]
    refine ⟨true, .applying i, ⟨[], .cancelled ht, rfl⟩, fun level e => ?_⟩
    simpa using not_alarm_of_fired ht
  | false =>
    rcases hg : h.get (instanceLookup settings i) t w with ⟨f | subject, t', w'⟩
    · rw [reconcileWith_unfetched ht hg]
      exact ⟨_, .fetchFailed i f, ⟨[], .unfetched ht hg, unfetched_alarms _ i f⟩,
        fun level e => alarm_iff_of_unfetched ht hg⟩
    · rcases Catalog.stages_of_steady hsource hc w' with hl | ⟨f, hl, hdecode⟩
      · exact hr.loaded_endsIn hsource ht hg hl
      · rw [reconcileWith_fetched ht hg]
        refine ⟨false, .loadFailed i f,
          ⟨_, .unloaded ht hg hl, load_alarms_of_error h i subject t' hl hdecode⟩, fun level e => ?_⟩
        rw [alarm_iff_of_unloaded ht hg hl, eq_self, true_and]
        rfl

/-- After any uses of a reconciler and with any client, the alarms of a reconcile are those that are recorded
elsewhere and then one of the engine at most. That one is raised just if a failure asks for it, at the level
of the failure. -/
theorem alarms_follow_failures (uses : List (Use World)) (hsource : settings.source.Steady ss)
    (hc : c.kept = none ∨ c.kept = some ss) (h : Host World) (i : Identity) (t : Token) (w : World) :
    let r : Reconciler World := ⟨c, (used settings uses).registry⟩
    let ran := r.reconcile settings h i (some t) w
    ∃ others own, Elsewhere settings h c i t w others ∧
      alarms ran.effects = others.filter Event.isAlarm ++ own ∧ own.length ≤ 1 ∧
        ∀ level e, e ∈ own ∧ e.level = level ↔ Alarm settings h c i t w level e := by
  intro r ran
  obtain ⟨quiet, last, ⟨others, hothers, halarms⟩, halarm⟩ :=
    (coherent_used settings uses).reconcileWith_endsIn hsource hc h i t w
  refine ⟨others, _, hothers, halarms, ?_, fun level e => ?_⟩
  · cases quiet <;> simp
  · rw [halarm]
    cases quiet with
    | true => simp
    | false =>
      constructor
      · rintro ⟨he, rfl⟩
        obtain rfl := List.mem_singleton.mp he
        exact ⟨rfl, rfl, rfl⟩
      · rintro ⟨-, rfl, rfl⟩
        exact ⟨List.mem_singleton_self _, rfl⟩

/-- A second reconcile of an instance whose only control is always late. -/
theorem late_control_alarms :
    let late : Control Unit := ⟨none, fun _ _ _ t w => ⟨.error (.reported .timeout "late"), t, w, []⟩⟩
    let stage : Stage Unit := ⟨"master", "master", .empty, [late], [], []⟩
    let settings : Settings Unit := ⟨.fixed [stage], "NodeFeatureDiscovery", .null⟩
    let h : Host Unit := ⟨fun _ => 0, fun _ t w => (.ok (.map false []), t, w)⟩
    let i : Identity := ⟨"default", "nfd"⟩
    let uses : List (Use Unit) := [.reconcile h i (some .quiet) ()]
    let c := (used settings uses).catalog
    let ran := (Reconciler.mk c (used settings uses).registry).reconcile settings h i (some .quiet) ()
    settings.source.Steady [stage] ∧ (c.kept = none ∨ c.kept = some [stage]) ∧
      alarms ran.effects = [.checkFailed i (some "master") (.reported .timeout "late")] ∧
      ∃ others own, Elsewhere settings h c i .quiet () others ∧
        alarms ran.effects = others.filter Event.isAlarm ++ own ∧ own.length ≤ 1 ∧
          ∀ level e, e ∈ own ∧ e.level = level ↔ Alarm settings h c i .quiet () level e := by
  intro late stage settings h i uses c ran
  have hsource : settings.source.Steady [stage] := StageSource.steady_fixed [stage]
  have hkept := (coherent_used settings uses).kept_steady hsource
  have hrecorded : ran.effects.filterMap Effect.event? = [.fetching i "NodeFeatureDiscovery", .applying i,
      .checkFailed i (some "master") (.reported .timeout "late")] := rfl
  have halarms : alarms ran.effects = [.checkFailed i (some "master") (.reported .timeout "late")] := by
    rw [alarms, hrecorded]
    simp [Event.isAlarm, Event.logger, Event.level]
  exact ⟨hsource, hkept, halarms, alarms_follow_failures uses hsource hkept h i .quiet ()⟩

end Reconciler
end StageGate
