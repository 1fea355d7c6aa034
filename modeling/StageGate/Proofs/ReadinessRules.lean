import StageGate.Proofs.DecodedMetadata
import StageGate.Stage.Readiness

/-!
The rules of readiness: where the live counterpart of a resource is found, and what has to hold of its
fields. A control answers that its kind is ready exactly when the counterpart is there and meets the rule.
-/

namespace StageGate
namespace Readiness

/-- The namespace that an instance lends its resources, which is none where it has no metadata. -/
inductive Lends (subject : Value) : Value → Prop where
  | nothing {es} (hes : subject.entries? = some es) (hm : (es.get "metadata").isPresent = false) :
      Lends subject .null
  | stated {es fields} (hes : subject.entries? = some es)
      (hm : (es.get "metadata").entries? = some fields) : Lends subject (fields.get "namespace")

/-- The namespace in which the live counterpart of a resource is found. -/
inductive Home (subject : Value) (r : Resource) : Value → Prop where
  | nowhere (hk : r.kind.isClusterScoped = true) : Home subject r .null
  | own (hk : r.kind.isClusterScoped = false) (hn : r.metadata.namespaceName.isPresent = true) :
      Home subject r r.metadata.namespaceName
  | shared {ns} (hk : r.kind.isClusterScoped = false)
      (hn : r.metadata.namespaceName.isPresent = false) (hs : Lends subject ns) : Home subject r ns

/-- The kinds of which more is asked than that a live object exists. -/
def HasRule (k : Kind) : Prop :=
  k = .nameSpace ∨ k = .daemonSet ∨ k = .pod

/-- The fields of the status of a live object, of which an absent status has none. -/
inductive HasStatus : Value → Mapping → Prop where
  | absent {live es} (hes : live.entries? = some es) (hs : (es.get "status").isPresent = false) :
      HasStatus live []
  | present {live es status} (hes : live.entries? = some es)
      (hs : (es.get "status").entries? = some status) : HasStatus live status

/-- The integer that a value stands for. -/
inductive Denotes : Value → Int → Prop where
  | int (n) : Denotes (.int n) n
  | bool (b) : Denotes (.bool b) (if b then 1 else 0)
  | float {x b} (hx : Decimal.Parts.ofFloat x = .finite b) : Denotes (.float x) b.truncate
  | text {s n} (hs : Decimal.readInt? 10 s.toList = some n) : Denotes (.str s) n
  | bytes {bs n} (hbs : ∀ b ∈ bs, b < 128)
      (hn : Decimal.readInt? 10 (bs.map fun b => Char.ofNat b.toNat) = some n) : Denotes (.bytes bs) n

/-- What a value counts, which is nothing if it does not count as present. -/
def Counts (v : Value) (n : Int) : Prop :=
  v.isPresent = false ∧ n = 0 ∨ v.isPresent = true ∧ Denotes v n

/-- The three counters in the status of a daemon set. -/
structure Counters (status : Mapping) (desired ready unavailable : Int) : Prop where
  desired : Counts (status.get "desiredNumberScheduled") desired
  ready : Counts (status.get "numberReady") ready
  unavailable : Counts (status.get "numberUnavailable") unavailable

/-- The rule that a live object of a kind has to meet to be ready. -/
inductive Meets : Kind → Value → Prop where
  | present {k live} (hk : ¬ HasRule k) : Meets k live
  | staying {live status} (hs : HasStatus live status)
      (hp : status.get "phase" ≠ .str "Terminating") : Meets .nameSpace live
  | unwanted {live status ready unavailable} (hs : HasStatus live status)
      (hn : Counters status 0 ready unavailable) : Meets .daemonSet live
  | rolledOut {live status desired ready unavailable} (hs : HasStatus live status)
      (hn : Counters status desired ready unavailable) (hr : desired ≤ ready) (hu : unavailable ≤ 0) :
      Meets .daemonSet live
  | succeeded {live status} (hs : HasStatus live status)
      (hp : status.get "phase" = .str "Succeeded") : Meets .pod live
  | running {live status cs} (hs : HasStatus live status)
      (hp : status.get "phase" = .str "Running")
      (hlisted : (status.get "containerStatuses").isPresent = true)
      (hcs : (status.get "containerStatuses").elements? = some cs)
      (hready : ∀ c ∈ cs, ∃ es, c.entries? = some es ∧ (es.get "ready").isPresent = true) :
      Meets .pod live

/-- What a control says of a daemon set that is not rolled out can be written. -/
def Tellable (r : Resource) (live : Value) : Prop :=
  ∀ status desired ready unavailable, HasStatus live status → Counters status desired ready unavailable →
    ∀ v ∈ [r.name, .int ready, .int desired, .int unavailable], v.isWritable = true

variable {subject live : Value} {r : Resource} {k : Kind} {status : Mapping}

/-! The fields that the rules read. -/

theorem statusOf_eq_ok : statusOf live = .ok status ↔ HasStatus live status := by
  unfold statusOf
  constructor
  · intro hs
    cases hes : live.entries? with
    | none => simp [hes] at hs
    | some es =>
      simp only [hes, Manifest.membersOf_eq_ok] at hs
      rcases hs with ⟨hs, rfl⟩ | hs
      · exact .absent hes hs
      · exact .present hes hs
  · intro hs
    cases hs with
    | absent hes hs => simp [hes, Manifest.membersOf, hs]
    | present hes hs => simp [hes, Manifest.membersOf_of_entries hs]

theorem HasStatus.unique {status' : Mapping} (hs : HasStatus live status) (hs' : HasStatus live status') :
    status = status' :=
  Except.ok.inj ((statusOf_eq_ok.mpr hs).symm.trans (statusOf_eq_ok.mpr hs'))

theorem orBadValue_eq_ok {x : Option Int} {n : Int} : orBadValue x = .ok n ↔ x = some n := by
  cases x <;> simp [orBadValue]

theorem counter_eq_ok {v : Value} {n : Int} : counter v = .ok n ↔ Counts v n := by
  unfold counter Counts
  cases hv : v.isPresent with
  | false => simp [eq_comm]
  | true =>
    simp only [Bool.not_true, Bool.false_eq_true, if_false, reduceCtorEq, false_and, true_and, false_or]
    constructor
    · intro hn
      cases v with
      | int m =>
        cases hn
        exact .int _
      | bool b =>
        cases hn
        exact .bool _
      | float x =>
        dsimp only at hn
        split at hn
        · cases hn
          exact .float ‹_›
        · cases hn
        · cases hn
      | str s => exact .text (orBadValue_eq_ok.mp hn)
      | bytes bs =>
        dsimp only at hn
        split at hn
        · rename_i hbs
          exact .bytes (by simpa using hbs) (orBadValue_eq_ok.mp hn)
        · cases hn
      | _ => cases hn
    · intro hn
      cases hn with
      | int | bool => rfl
      | float hx => simp [hx]
      | text hs => exact orBadValue_eq_ok.mpr hs
      | @bytes bs _ hbs hn =>
        have hall : (bs.all fun b => decide (b < 128)) = true := by simpa using hbs
        simp only [hall, if_true]
        exact orBadValue_eq_ok.mpr hn

theorem rolloutOf_eq_ok {n : Rollout} :
    rolloutOf status = .ok n ↔ Counters status n.desired n.ready n.unavailable := by
  simp only [rolloutOf, bind_eq_ok, counter_eq_ok]
  constructor
  · rintro ⟨desired, hdesired, ready, hready, unavailable, hunavailable, hn⟩
    cases hn
    exact ⟨hdesired, hready, hunavailable⟩
  · rintro ⟨hdesired, hready, hunavailable⟩
    exact ⟨_, hdesired, _, hready, _, hunavailable, rfl⟩

/-! Where the live counterpart is found. -/

theorem instanceNamespace_eq_ok {ns : Value} :
    instanceNamespace subject = .ok ns ↔ Lends subject ns := by
  unfold instanceNamespace
  constructor
  · intro hns
    cases hes : subject.entries? with
    | none => simp [hes] at hns
    | some es =>
      simp only [hes, map_eq_ok, Manifest.membersOf_eq_ok] at hns
      obtain ⟨fields, ⟨hm, rfl⟩ | hm, rfl⟩ := hns
      · exact .nothing hes hm
      · exact .stated hes hm
  · intro hlends
    cases hlends with
    | nothing hes hm =>
      rw [hes]
      dsimp only
      rw [Manifest.membersOf_eq_ok.mpr (.inl ⟨hm, rfl⟩)]
      rfl
    | stated hes hm => simp [hes, Manifest.membersOf_of_entries hm, Except.map]

theorem Lends.unique {ns ns' : Value} (h : Lends subject ns) (h' : Lends subject ns') : ns = ns' :=
  Except.ok.inj ((instanceNamespace_eq_ok.mpr h).symm.trans (instanceNamespace_eq_ok.mpr h'))

theorem lookupFor_eq_ok {l : Lookup} :
    lookupFor subject r = .ok l ↔ ∃ ns, Home subject r ns ∧ l = ⟨.str r.kind.name, r.name, ns⟩ := by
  unfold lookupFor
  cases hk : r.kind.isClusterScoped with
  | true =>
    constructor
    · intro hl
      cases hl
      exact ⟨.null, .nowhere hk, rfl⟩
    · rintro ⟨ns, hhome, rfl⟩
      cases hhome with
      | nowhere => rfl
      | own hk' | shared hk' => simp [hk] at hk'
  | false =>
    cases hn : r.metadata.namespaceName.isPresent with
    | true =>
      constructor
      · intro hl
        cases hl
        exact ⟨_, .own hk hn, rfl⟩
      · rintro ⟨ns, hhome, rfl⟩
        cases hhome with
        | nowhere hk' => simp [hk] at hk'
        | own => rfl
        | shared _ hn' => simp [hn] at hn'
    | false =>
      constructor
      · intro hl
        cases hs : instanceNamespace subject with
        | error m => simp [hs, Except.map] at hl
        | ok ns =>
          rw [hs] at hl
          cases hl
          exact ⟨ns, .shared hk hn (instanceNamespace_eq_ok.mp hs), rfl⟩
      · rintro ⟨ns, hhome, rfl⟩
        cases hhome with
        | nowhere hk' => simp [hk] at hk'
        | own _ hn' => simp [hn] at hn'
        | shared _ _ hs => simp [instanceNamespace_eq_ok.mpr hs, Except.map]

/-! The verdict. -/

theorem isText_iff {s : String} {v : Value} : isText s v = true ↔ v = .str s := by
  cases v <;> simp [isText]

theorem isDone_iff {n : Rollout} :
    n.isDone = true ↔ n.desired = 0 ∨ n.desired ≤ n.ready ∧ n.unavailable ≤ 0 := by
  simp [Rollout.isDone]

theorem allReady_eq_true {cs : List Value} :
    allReady cs = .ok true ↔
      ∀ c ∈ cs, ∃ es, c.entries? = some es ∧ (es.get "ready").isPresent = true := by
  induction cs with
  | nil => simp [allReady]
  | cons c cs ih =>
    rw [List.forall_mem_cons, ← ih, allReady]
    cases hc : c.entries? with
    | none => simp
    | some es => cases hr : (es.get "ready").isPresent <;> simp [hr]

theorem containersReady_eq_true {v : Value} :
    containersReady v = .ok true ↔ v.isPresent = true ∧ ∃ cs, v.elements? = some cs ∧
      ∀ c ∈ cs, ∃ es, c.entries? = some es ∧ (es.get "ready").isPresent = true := by
  unfold containersReady
  cases hv : v.isPresent with
  | false => simp
  | true =>
    cases hcs : v.elements? with
    | none => simp
    | some cs => simp [allReady_eq_true]

theorem podIsReady_eq_true :
    podIsReady status = .ok true ↔ status.get "phase" = .str "Succeeded" ∨
      status.get "phase" = .str "Running" ∧
        containersReady (status.get "containerStatuses") = .ok true := by
  unfold podIsReady
  by_cases hs : status.get "phase" = .str "Succeeded"
  · simp [hs, isText]
  have hs' : isText "Succeeded" (status.get "phase") = false := by
    rwa [← Bool.not_eq_true, isText_iff]
  by_cases hr : status.get "phase" = .str "Running"
  · simp [hr, isText]
  have hr' : isText "Running" (status.get "phase") = false := by
    rwa [← Bool.not_eq_true, isText_iff]
  simp [hs, hs', hr, hr']

theorem answer_eq_ready {b : Bool} : answer b = .ready ↔ b = true := by
  cases b <;> simp [answer]

theorem Meets.exists_status (hm : Meets k live) (hk : HasRule k) : ∃ status, HasStatus live status := by
  cases hm with
  | present hk' => exact absurd hk hk'
  | staying hs | unwanted hs | rolledOut hs | succeeded hs | running hs => exact ⟨_, hs⟩

theorem exists_status_of_judge (hk : HasRule k) {verdict : Answer × List Event}
    (hj : judge k r live = .ok verdict) : ∃ status, HasStatus live status := by
  simp only [← statusOf_eq_ok]
  cases hs : statusOf live with
  | ok status => exact ⟨status, rfl⟩
  | error m =>
    rcases hk with rfl | rfl | rfl <;> simp [judge, hs, Bind.bind, Except.bind] at hj

theorem judge_nameSpace (hs : HasStatus live status) :
    (∃ es, judge .nameSpace r live = .ok (.ready, es)) ↔ Meets .nameSpace live := by
  have hj : judge .nameSpace r live =
      .ok (answer !(isText "Terminating" (status.get "phase")), []) := by
    simp [judge, statusOf_eq_ok.mpr hs, Bind.bind, Except.bind, Pure.pure, Except.pure]
  constructor
  · rintro ⟨es, hready⟩
    rw [hj] at hready
    have hstays := answer_eq_ready.mp (congrArg Prod.fst (Except.ok.inj hready))
    refine .staying hs fun hp => ?_
    simp [hp, isText] at hstays
  · intro hm
    cases hm with
    | present hk' => exact absurd (.inl rfl) hk'
    | staying hs' hp =>
      cases hs.unique hs'
      have hstays : isText "Terminating" (status.get "phase") = false := by
        rwa [← Bool.not_eq_true, isText_iff]
      exact ⟨[], by rw [hj, hstays]; rfl⟩

theorem event_eq_ok {n : Rollout} {name : Value} {e : Event} : n.event name = .ok e ↔
    (∀ v ∈ [name, .int n.ready, .int n.desired, .int n.unavailable], v.isWritable = true) ∧
      e = .rolledOut name n.ready n.desired n.unavailable := by
  unfold Rollout.event
  rw [← List.all_eq_true]
  cases [name, .int n.ready, .int n.desired, .int n.unavailable].all Value.isWritable with
  | true => simp [eq_comm]
  | false => simp

/-- The verdict on a daemon set with counters that can be read. -/
theorem judge_counted {n : Rollout} (hs : HasStatus live status) (hn : rolloutOf status = .ok n) :
    judge .daemonSet r live =
      if n.isDone then .ok (.ready, []) else (n.event r.name).map fun e => (.notReady, [e]) := by
  simp only [judge, statusOf_eq_ok.mpr hs, hn, bind, Except.bind]
  cases n.isDone with
  | true => rfl
  | false => cases n.event r.name <;> rfl

theorem judge_daemonSet (hs : HasStatus live status) :
    (∃ es, judge .daemonSet r live = .ok (.ready, es)) ↔ Meets .daemonSet live := by
  have hj : (∃ es, judge .daemonSet r live = .ok (.ready, es)) ↔
      ∃ n, rolloutOf status = .ok n ∧ n.isDone = true := by
    cases hn : rolloutOf status with
    | error m => simp [judge, statusOf_eq_ok.mpr hs, hn, Bind.bind, Except.bind]
    | ok n =>
      rw [judge_counted hs hn]
      cases hd : n.isDone with
      | true => simp [hd]
      | false => simp [hd, map_eq_ok]
  rw [hj]
  constructor
  · rintro ⟨⟨desired, ready, unavailable⟩, hn, hdone⟩
    have hcounters := rolloutOf_eq_ok.mp hn
    rcases isDone_iff.mp hdone with rfl | ⟨hr, hu⟩
    · exact .unwanted hs hcounters
    · exact .rolledOut hs hcounters hr hu
  · intro hm
    cases hm with
    | present hk' => exact absurd (.inr (.inl rfl)) hk'
    | @unwanted _ _ ready unavailable hs' hn =>
      cases hs.unique hs'
      exact ⟨⟨0, ready, unavailable⟩, rolloutOf_eq_ok.mpr hn, isDone_iff.mpr (.inl rfl)⟩
    | @rolledOut _ _ desired ready unavailable hs' hn hr hu =>
      cases hs.unique hs'
      exact ⟨⟨desired, ready, unavailable⟩, rolloutOf_eq_ok.mpr hn, isDone_iff.mpr (.inr ⟨hr, hu⟩)⟩

theorem judge_pod (hs : HasStatus live status) :
    (∃ es, judge .pod r live = .ok (.ready, es)) ↔ Meets .pod live := by
  have hj : (∃ es, judge .pod r live = .ok (.ready, es)) ↔ podIsReady status = .ok true := by
    cases hp : podIsReady status <;>
      simp [judge, statusOf_eq_ok.mpr hs, hp, Bind.bind, Except.bind, Pure.pure, Except.pure,
        answer_eq_ready]
  rw [hj, podIsReady_eq_true, containersReady_eq_true]
  constructor
  · rintro (hp | ⟨hp, hlisted, cs, hcs, hready⟩)
    · exact .succeeded hs hp
    · exact .running hs hp hlisted hcs hready
  · intro hm
    cases hm with
    | present hk' => exact absurd (.inr (.inr rfl)) hk'
    | succeeded hs' hp =>
      cases hs.unique hs'
      exact .inl hp
    | running hs' hp hlisted hcs hready =>
      cases hs.unique hs'
      exact .inr ⟨hp, hlisted, _, hcs, hready⟩

theorem judge_other (hk : ¬ HasRule k) : judge k r live = .ok (.ready, []) := by
  unfold HasRule at hk
  cases k <;> simp_all [judge]

/-- The verdict is that a live object is ready exactly when it meets the rule of the kind. -/
theorem judge_ready : (∃ es, judge k r live = .ok (.ready, es)) ↔ Meets k live := by
  by_cases hk : HasRule k
  · by_cases hs : ∃ status, HasStatus live status
    · obtain ⟨status, hs⟩ := hs
      rcases hk with rfl | rfl | rfl
      · exact judge_nameSpace hs
      · exact judge_daemonSet hs
      · exact judge_pod hs
    · constructor
      · rintro ⟨es, hj⟩
        exact absurd (exists_status_of_judge hk hj) hs
      · intro hm
        exact absurd (hm.exists_status hk) hs
  · exact ⟨fun _ => .present hk, fun _ => ⟨[], judge_other hk⟩⟩

theorem judgeFetched_ready {fetched : Except Fault Value} :
    (judgeFetched k r fetched).1 = .ok .ready ↔ ∃ live, fetched = .ok live ∧ Meets k live := by
  cases fetched with
  | error f =>
    cases f with
    | notFound => cases hw : r.name.isWritable <;> simp [judgeFetched, hw]
    | _ => simp [judgeFetched]
  | ok live =>
    simp only [Except.ok.injEq, exists_eq_left', ← judge_ready (r := r)]
    rcases hj : judge k r live with m | ⟨a, es⟩ <;> simp [judgeFetched, hj]

theorem judgeFetched_found : (judgeFetched k r (.ok live)).1 = .ok .ready ↔ Meets k live := by
  simp [judgeFetched_ready]

section
variable {World : Type} {h : Host World} {b : Bundle} {t : Token} {w : World}

theorem checkResource_ready :
    (checkResource k h subject r t w).result = .ok .ready ↔
      ∃ ns live, Home subject r ns ∧ (h.get ⟨.str r.kind.name, r.name, ns⟩ t w).1 = .ok live ∧
        Meets k live := by
  cases hl : lookupFor subject r with
  | error m =>
    simp only [checkResource, hl, reduceCtorEq, false_iff]
    rintro ⟨ns, live, hhome, -⟩
    simp [lookupFor_eq_ok.mpr ⟨ns, hhome, rfl⟩] at hl
  | ok l =>
    have hplace (ns : Value) (hhome : Home subject r ns) : l = ⟨.str r.kind.name, r.name, ns⟩ :=
      Except.ok.inj (hl.symm.trans (lookupFor_eq_ok.mpr ⟨ns, hhome, rfl⟩))
    have hresult : (checkResource k h subject r t w).result = .ok .ready ↔
        ∃ live, (h.get l t w).1 = .ok live ∧ Meets k live := by
      simp [checkResource, hl, Host.fetch, judgeFetched_ready]
    rw [hresult]
    constructor
    · rintro ⟨live, hget, hmeets⟩
      obtain ⟨ns, hhome, rfl⟩ := lookupFor_eq_ok.mp hl
      exact ⟨ns, live, hhome, hget, hmeets⟩
    · rintro ⟨ns, live, hhome, hget, hmeets⟩
      exact ⟨live, by rwa [hplace ns hhome], hmeets⟩

/-- A control answers that its kind is ready exactly when the bundle has a resource of the kind, and
its live counterpart is there and meets the rule. -/
theorem control_ready :
    ((control World k).run h subject b t w).result = .ok .ready ↔
      ∃ r, b.get k = some r ∧ ∃ ns live, Home subject r ns ∧
        (h.get ⟨.str r.kind.name, r.name, ns⟩ t w).1 = .ok live ∧ Meets k live := by
  cases hb : b.get k with
  | none => simp [control, hb]
  | some r => simp [control, hb, checkResource_ready]

/-- A control gets to another world only by its look-up. -/
theorem control_world (k : Kind) (h : Host World) (subject : Value) (b : Bundle) (t : Token)
    (w : World) :
    ((control World k).run h subject b t w).world = w ∨
      ∃ l, ((control World k).run h subject b t w).world = (h.get l t w).2.2 := by
  cases hb : b.get k with
  | none => exact .inl (by simp [control, hb])
  | some r =>
    cases hl : lookupFor subject r with
    | error m => exact .inl (by simp [control, hb, checkResource, hl])
    | ok l => exact .inr ⟨l, by simp [control, hb, checkResource, hl, Host.fetch]⟩

end
end Readiness
end StageGate
