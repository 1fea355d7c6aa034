import Mathlib.Tactic.Positivity
import StageGate.Proofs.DecodeFaults
import StageGate.Proofs.LiveCounterparts

/-!
What the control of a kind does at any host. Without a resource of the kind it looks nothing up and finds
nothing ready; otherwise it looks the live counterpart up, once, and answers by the rule of the kind.
-/

namespace StageGate

namespace Readiness

/-- The subject is a mapping, and so is its metadata, if it has any. -/
def HasMetadata (subject : Value) : Prop :=
  ∃ es, subject.entries? = some es ∧
    ((es.get "metadata").isPresent = true → ∃ fields, (es.get "metadata").entries? = some fields)

variable {World : Type} {h : Host World} {subject live : Value} {b : Bundle} {k : Kind} {r : Resource}
  {ns : Value} {f : Fault} {a : Answer} {events : List Event} {t : Token} {w : World}

theorem HasMetadata.lends (hsubject : HasMetadata subject) : ∃ ns, Lends subject ns := by
  obtain ⟨es, hes, hmetadata⟩ := hsubject
  cases hpresent : (es.get "metadata").isPresent with
  | false => exact ⟨_, .nothing hes hpresent⟩
  | true =>
    obtain ⟨fields, hfields⟩ := hmetadata hpresent
    exact ⟨_, .stated hes hfields⟩

theorem exists_home (hsubject : ∃ ns, Lends subject ns) (r : Resource) : ∃ ns, Home subject r ns := by
  cases hscope : r.kind.isClusterScoped with
  | true => exact ⟨_, .nowhere hscope⟩
  | false =>
    cases hown : r.metadata.namespaceName.isPresent with
    | true => exact ⟨_, .own hscope hown⟩
    | false =>
      obtain ⟨ns, hns⟩ := hsubject
      exact ⟨ns, .shared hscope hown hns⟩

/-- A verdict is one of two answers. -/
theorem judge_answer (hj : judge k r live = .ok (a, events)) : a = .ready ∨ a = .notReady := by
  have hanswer (isReady : Bool) : answer isReady = .ready ∨ answer isReady = .notReady := by
    cases isReady with
    | true => exact .inl rfl
    | false => exact .inr rfl
  by_cases hrule : HasRule k
  · rcases hrule with rfl | rfl | rfl
    · obtain ⟨status, -, hj⟩ := bind_eq_ok.mp hj
      cases hj
      exact hanswer _
    · obtain ⟨status, -, hj⟩ := bind_eq_ok.mp hj
      obtain ⟨n, -, hj⟩ := bind_eq_ok.mp hj
      cases hdone : n.isDone with
      | true =>
        simp only [hdone, if_true] at hj
        cases hj
        exact .inl rfl
      | false =>
        simp only [hdone, Bool.false_eq_true, if_false] at hj
        obtain ⟨e, -, hj⟩ := bind_eq_ok.mp hj
        cases hj
        exact .inr rfl
    · obtain ⟨status, -, hj⟩ := bind_eq_ok.mp hj
      obtain ⟨isReady, -, hj⟩ := bind_eq_ok.mp hj
      cases hj
      exact hanswer _
  · rw [judge_other hrule] at hj
    cases hj
    exact .inl rfl

/-- The verdict on what is well typed is that it is ready if it meets the rule, and not ready otherwise; but
it is a bad value where this cannot be told of a daemon set. -/
theorem judgeFetched_welltyped (hlive : WellTyped k live) :
    ((judgeFetched k r (.ok live)).1 = .ok .ready ↔ Meets k live) ∧
      (¬ Meets k live → (k = .daemonSet → Tellable r live) →
        (judgeFetched k r (.ok live)).1 = .ok .notReady) ∧
      (¬ Meets k live → k = .daemonSet → ¬ Tellable r live →
        (judgeFetched k r (.ok live)).1 = .error (.mismatch .badValue)) := by
  refine ⟨judgeFetched_found, fun hrule htold => ?_, fun hrule hk htell => ?_⟩
  · obtain ⟨⟨a, events⟩, hj⟩ := exists_judgement hlive fun hk => .inr (htold hk)
    have hjudged : (judgeFetched k r (.ok live)).1 = .ok a := by simp [judgeFetched, hj]
    rcases judge_answer hj with rfl | rfl
    · exact absurd (judgeFetched_found.mp hjudged) hrule
    · exact hjudged
  · subst hk
    simp [judgeFetched, judge_untold hlive hrule htell]

theorem control_empty (hb : b.get k = none) :
    (control World k).run h subject b t w = ⟨.ok .notReady, t, w, []⟩ := by
  simp [control, hb]

theorem control_placed (hb : b.get k = some r) (hhome : Home subject r ns) :
    (control World k).run h subject b t w =
      let got := h.get ⟨.str r.kind.name, r.name, ns⟩ t w
      let judged := judgeFetched k r got.1
      ⟨judged.1, got.2.1, got.2.2,
        .lookup ⟨.str r.kind.name, r.name, ns⟩ :: judged.2.map .logged⟩ := by
  have hl := lookupFor_eq_ok.mpr ⟨ns, hhome, rfl⟩
  simp [control, hb, checkResource, hl, Host.fetch]

/-- Without a resource of its kind a control answers that it is not ready, and does nothing else. With one
it makes a single look-up, in no namespace, in that of the resource, or in that of the instance. What is
not found is not ready, and any other fault is the fault of the control. What is found and well typed is
ready if it meets the rule of the kind, and not ready otherwise. But the control has to log what is not
ready: where the name of the resource, or a counter of a daemon set, is an integer with too many digits to be
written, it comes to a bad value instead. -/
theorem control_outcome (hsubject : HasMetadata subject) (h : Host World) (b : Bundle) (k : Kind)
    (t : Token) (w : World) :
    let ran := (control World k).run h subject b t w
    (b.get k = none → ran = ⟨.ok .notReady, t, w, []⟩) ∧
    ∀ r, b.get k = some r → ∃ ns, Home subject r ns ∧
      let l : Lookup := ⟨.str r.kind.name, r.name, ns⟩
      let got := h.get l t w
      ran.effects.filterMap Effect.lookup? = [l] ∧ ran.token = got.2.1 ∧ ran.world = got.2.2 ∧
      (∀ f, got.1 = .error f → f.isNotFound = true →
        ran.result = if r.name.isWritable then .ok .notReady else .error (.mismatch .badValue)) ∧
      (∀ f, got.1 = .error f → f.isNotFound = false → ran.result = .error f) ∧
      ∀ live entries, got.1 = .ok live → live.entries? = some entries → WellTyped k live →
        (ran.result = .ok .ready ↔ Meets k live) ∧
          (¬ Meets k live → (k = .daemonSet → Tellable r live) → ran.result = .ok .notReady) ∧
          (¬ Meets k live → k = .daemonSet → ¬ Tellable r live →
            ran.result = .error (.mismatch .badValue)) := by
  intro ran
  refine ⟨control_empty, fun r hb => ?_⟩
  obtain ⟨ns, hhome⟩ := exists_home hsubject.lends r
  refine ⟨ns, hhome, ?_⟩
  intro l got
  have hran : ran = ⟨(judgeFetched k r got.1).1, got.2.1, got.2.2,
      .lookup l :: (judgeFetched k r got.1).2.map .logged⟩ := control_placed hb hhome
  have hlogged (events : List Event) :
      (events.map Effect.logged).filterMap Effect.lookup? = [] := by
    simp [List.filterMap_map, Function.comp_def, Effect.lookup?]
  refine ⟨?_, congrArg Ran.token hran, congrArg Ran.world hran, ?_, ?_, ?_⟩
  · rw [hran]
    exact (List.filterMap_cons_some (f := Effect.lookup?) rfl).trans (congrArg _ (hlogged _))
  · intro f hf hmissing
    rw [hran, hf]
    cases f with
    | notFound => cases hname : r.name.isWritable <;> simp [judgeFetched, hname]
    | _ => cases hmissing
  · intro f hf hother
    rw [hran, hf]
    cases f with
    | notFound => cases hother
    | _ => rfl
  · intro live entries hlive _ htyped
    rw [hran, hlive]
    exact judgeFetched_welltyped htyped

/-- A daemon set without a namespace of its own, for an instance that has no metadata. -/
def daemon : Resource :=
  ⟨.daemonSet, "DaemonSet", .str "apps/v1", ⟨.str "a", .null, [], []⟩, .spec [], .null⟩

/-- A host at which every look-up finds the live object. -/
def hostOf (live : Value) : Host Unit :=
  ⟨fun _ => 0, fun _ t w => (.ok live, t, w)⟩

/-- Counters as a text, as a number, and absent. -/
def rolledOutDaemon : Value :=
  .map false [(.str "status", .map false [(.str "desiredNumberScheduled", .str "2"),
    (.str "numberReady", .int 2)])]

theorem daemon_ready :
    HasMetadata (.map false []) ∧
      ((control Unit .daemonSet).run (hostOf rolledOutDaemon) (.map false []) (Bundle.empty.put daemon)
        .quiet ()).result = .ok .ready := by
  have hsubject : HasMetadata (.map false []) := ⟨[], rfl, nofun⟩
  obtain ⟨-, houtcome⟩ :=
    control_outcome hsubject (hostOf rolledOutDaemon) (Bundle.empty.put daemon) .daemonSet .quiet ()
  obtain ⟨ns, -, -, -, -, -, -, hverdict⟩ := houtcome daemon rfl
  have hstatus : HasStatus rolledOutDaemon [(.str "desiredNumberScheduled", .str "2"),
      (.str "numberReady", .int 2)] := statusOf_eq_ok.mp rfl
  have hcounters : Counters [(.str "desiredNumberScheduled", .str "2"), (.str "numberReady", .int 2)] 2 2 0 :=
    rolloutOf_eq_ok (n := ⟨2, 2, 0⟩).mp rfl
  have htyped : WellTyped .daemonSet rolledOutDaemon := ⟨_, _, _, _, hstatus, hcounters⟩
  refine ⟨hsubject, (hverdict rolledOutDaemon _ rfl rfl htyped).1.mpr ?_⟩
  exact .rolledOut hstatus hcounters (by decide) (by decide)

/-- A daemon set that is to be scheduled on some nodes, and is ready on none. -/
def idleDaemon (desired : Int) : Value :=
  .map false [(.str "status", .map false [(.str "desiredNumberScheduled", .int desired)])]

theorem idleDaemon_status (desired : Int) :
    HasStatus (idleDaemon desired) [(.str "desiredNumberScheduled", .int desired)] :=
  statusOf_eq_ok.mp rfl

theorem idleDaemon_counters {desired : Int} (hd : 0 < desired) :
    Counters [(.str "desiredNumberScheduled", .int desired)] desired 0 0 := by
  have hpresent : (Value.int desired).isPresent = true := by
    simpa [Value.isPresent] using hd.ne'
  exact ⟨.inr ⟨hpresent, .int _⟩, counter_eq_ok.mp rfl, counter_eq_ok.mp rfl⟩

/-- With more nodes to be scheduled on than can be written, a daemon set is a bad value. -/
theorem judge_idleDaemon {desired : Int} (hd : 0 < desired)
    (hwritable : (Value.int desired).isWritable = false) (r : Resource) :
    judge .daemonSet r (idleDaemon desired) = .error .badValue := by
  have hn := rolloutOf_eq_ok (n := ⟨desired, 0, 0⟩).mpr (idleDaemon_counters hd)
  rw [judge_counted (idleDaemon_status desired) hn]
  simp [Rollout.isDone, Rollout.event, hwritable, hd.ne', hd, Except.map]

/-- What is well typed and does not meet the rule is not always not ready. -/
theorem idleDaemon_raises :
    ¬ ∀ live entries, live.entries? = some entries → WellTyped .daemonSet live → ¬ Meets .daemonSet live →
      ((control Unit .daemonSet).run (hostOf live) (.map false []) (Bundle.empty.put daemon) .quiet
        ()).result = .ok .notReady := by
  intro hnotReady
  have hd : (0 : Int) < 10 ^ 4300 := by positivity
  have hjudged := judge_idleDaemon hd (by decide +kernel) daemon
  have hrule : ¬ Meets .daemonSet (idleDaemon (10 ^ 4300)) := by
    rw [← judge_ready (r := daemon), hjudged]
    simp
  have hran := hnotReady _ _ rfl ⟨_, _, _, _, idleDaemon_status _, idleDaemon_counters hd⟩ hrule
  rw [control_placed rfl (.shared rfl rfl (.nothing rfl rfl))] at hran
  simp only [hostOf, judgeFetched, hjudged] at hran
  cases hran

end Readiness
end StageGate
