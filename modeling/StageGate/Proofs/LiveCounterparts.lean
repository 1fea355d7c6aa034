import StageGate.Proofs.DecodedMetadata
import StageGate.Proofs.SiteChecks

/-!
Live counterparts of resources. A control that comes to an answer finds its kind ready if the counterpart
is there and meets the rule, and otherwise something is wanting. Where the statuses of the live objects
are well typed, a control comes to an answer unless the namespace of the instance, which the counterpart
is to be found in, cannot be part of a key, or what is to be reported has an integer with too many digits.
All else are mismatches.
-/

namespace StageGate

theorem Cluster.get_eq_error {c : Cluster} {l : Lookup} {f : Fault} (hf : c.get l = .error f) :
    f = .notFound l.kind l.name l.namespaceName ∧ l.isWritable = true ∨
      f = .mismatch .wrongType ∧ l.key? = none ∨ f = .mismatch .badValue ∧ l.isWritable = false := by
  cases hk : l.key? with
  | none =>
    rw [get_of_not_key hk] at hf
    exact .inr (.inl ⟨(Except.error.inj hf).symm, rfl⟩)
  | some key =>
    rw [get_of_key hk] at hf
    cases hfound : c.find? key with
    | some object => simp [hfound] at hf
    | none =>
      rw [hfound] at hf
      obtain rfl := Except.error.inj hf
      cases hw : l.isWritable with
      | true => exact .inl ⟨by simp [Lookup.absence, hw], rfl⟩
      | false => exact .inr (.inr ⟨by simp [Lookup.absence, hw], rfl⟩)

namespace Readiness

/-- The live counterpart of the resource is there and meets the rule of its kind. -/
def IsLive (cluster : Cluster) (subject : Value) (r : Resource) : Prop :=
  ∃ ns live, Home subject r ns ∧ cluster.get ⟨.str r.kind.name, r.name, ns⟩ = .ok live ∧
    Meets r.kind live

/-- The live counterpart of the resource is missing, or it does not meet the rule of its kind. -/
inductive Wanting (cluster : Cluster) (subject : Value) (r : Resource) : Prop where
  | missing {ns} (hhome : Home subject r ns)
      (hget : cluster.get ⟨.str r.kind.name, r.name, ns⟩ =
        .error (.notFound (.str r.kind.name) r.name ns))
  | unmet {ns live} (hhome : Home subject r ns)
      (hget : cluster.get ⟨.str r.kind.name, r.name, ns⟩ = .ok live) (hrule : ¬ Meets r.kind live)

/-- The containers that a status lists are mappings. -/
def ListsContainers (status : Mapping) : Prop :=
  (status.get "containerStatuses").isPresent = true →
    ∃ cs, (status.get "containerStatuses").elements? = some cs ∧
      ∀ c ∈ cs, ∃ es, c.entries? = some es

/-- What the rule of the kind reads of a live object is of the right type: a status that is a mapping or
absent, counters that are numbers or absent, and containers that are mappings. -/
def WellTyped : Kind → Value → Prop
  | .nameSpace, live => ∃ status, HasStatus live status
  | .daemonSet, live => ∃ status desired ready unavailable, HasStatus live status ∧
      Counters status desired ready unavailable
  | .pod, live => ∃ status, HasStatus live status ∧ ListsContainers status
  | _, _ => True

/-- The counterpart of the resource is to be found in the namespace of the instance, which cannot be part
of a key. -/
def Unplaced (subject : Value) (r : Resource) : Prop :=
  r.kind.isClusterScoped = false ∧ r.metadata.namespaceName.isPresent = false ∧
    ∃ ns, Lends subject ns ∧ namespaceKey? ns = none

/-- What is to be reported of the counterpart cannot be written: the namespace in which it is missing, or a
rollout that is not done. -/
inductive Unwritten (cluster : Cluster) (subject : Value) (r : Resource) : Prop where
  | place {ns} (hhome : Home subject r ns) (hkey : namespaceKey? ns ≠ none) (hns : ns.isWritable = false)
      (hmissing : ∀ live, cluster.get ⟨.str r.kind.name, r.name, ns⟩ ≠ .ok live)
  | rollout {ns live} (hhome : Home subject r ns)
      (hget : cluster.get ⟨.str r.kind.name, r.name, ns⟩ = .ok live) (hk : r.kind = .daemonSet)
      (hrule : ¬ Meets r.kind live) (htell : ¬ Tellable r live)

end Readiness

/-- The statuses of the live objects of all kinds are well typed. -/
def Cluster.WellTyped (c : Cluster) : Prop :=
  ∀ (k : Kind) name ns live, c.get ⟨.str k.name, name, ns⟩ = .ok live → Readiness.WellTyped k live

namespace Readiness
variable {cluster : Cluster} {subject live : Value} {b : Bundle} {k : Kind} {r : Resource} {a : Answer}
  {f : Fault}

theorem Home.unique {ns ns' : Value} (hhome : Home subject r ns) (hhome' : Home subject r ns') :
    ns = ns' := by
  have hl := lookupFor_eq_ok.mpr ⟨ns, hhome, rfl⟩
  have hl' := lookupFor_eq_ok.mpr ⟨ns', hhome', rfl⟩
  exact congrArg Lookup.namespaceName (Except.ok.inj (hl.symm.trans hl'))

theorem Wanting.not_isLive (hr : Wanting cluster subject r) : ¬ IsLive cluster subject r := by
  intro hlive
  obtain ⟨ns, live, hhome, hget, hmeets⟩ := hlive
  cases hr with
  | missing hhome' hmissing =>
    cases hhome.unique hhome'
    simp [hmissing] at hget
  | unmet hhome' hget' hrule =>
    cases hhome.unique hhome'
    cases Except.ok.inj (hget.symm.trans hget')
    exact hrule hmeets

theorem exists_allReady {cs : List Value} (hcs : ∀ c ∈ cs, ∃ es, c.entries? = some es) :
    ∃ isReady, allReady cs = .ok isReady := by
  induction cs with
  | nil => exact ⟨true, rfl⟩
  | cons c cs ih =>
    obtain ⟨⟨es, hes⟩, hrest⟩ := List.forall_mem_cons.mp hcs
    obtain ⟨isReady, hready⟩ := ih hrest
    cases hpresent : (es.get "ready").isPresent with
    | true => exact ⟨isReady, by simp [allReady, hes, hpresent, hready]⟩
    | false => exact ⟨false, by simp [allReady, hes, hpresent]⟩

theorem exists_podIsReady {status : Mapping} (hlisted : ListsContainers status) :
    ∃ isReady, podIsReady status = .ok isReady := by
  have hcontainers : ∃ isReady, containersReady (status.get "containerStatuses") = .ok isReady := by
    unfold containersReady
    cases hpresent : (status.get "containerStatuses").isPresent with
    | false => exact ⟨false, rfl⟩
    | true =>
      obtain ⟨cs, hcs, hmaps⟩ := hlisted hpresent
      simpa [hcs] using exists_allReady hmaps
  obtain ⟨isReady, hready⟩ := hcontainers
  unfold podIsReady
  dsimp only
  split
  · exact ⟨true, rfl⟩
  · split
    · exact ⟨isReady, hready⟩
    · exact ⟨false, rfl⟩

theorem tellable_iff {status : Mapping} {n : Rollout} (hs : HasStatus live status)
    (hn : rolloutOf status = .ok n) : Tellable r live ↔ ∃ e, n.event r.name = .ok e := by
  simp only [event_eq_ok, exists_and_left, exists_eq, and_true]
  constructor
  · intro htell
    exact htell status n.desired n.ready n.unavailable hs (rolloutOf_eq_ok.mp hn)
  · intro hw status' desired ready unavailable hs' hcounters
    cases hs.unique hs'
    cases hn.symm.trans (rolloutOf_eq_ok (n := ⟨desired, ready, unavailable⟩).mpr hcounters)
    exact hw

theorem event_eq_error {n : Rollout} {name : Value} {m : Mismatch} (hm : n.event name = .error m) :
    m = .badValue := by
  unfold Rollout.event at hm
  split at hm
  · cases hm
  · cases hm
    rfl

/-- A rollout that is not done and cannot be told of is a bad value. -/
theorem judge_untold (hlive : WellTyped .daemonSet live) (hrule : ¬ Meets .daemonSet live)
    (htell : ¬ Tellable r live) : judge .daemonSet r live = .error .badValue := by
  obtain ⟨status, desired, ready, unavailable, hstatus, hcounters⟩ := hlive
  have hn := rolloutOf_eq_ok (n := ⟨desired, ready, unavailable⟩).mpr hcounters
  rw [← judge_ready (r := r), judge_counted hstatus hn] at hrule
  rw [tellable_iff hstatus hn] at htell
  rw [judge_counted hstatus hn]
  cases hdone : Rollout.isDone _ with
  | true => simp [hdone] at hrule
  | false =>
    cases he : Rollout.event _ r.name with
    | ok e => exact absurd ⟨e, he⟩ htell
    | error m =>
      obtain rfl := event_eq_error he
      rfl

/-- A live object with a well-typed status gets a verdict, unless it is a rollout that is not done and
cannot be told of. -/
theorem exists_judgement (hlive : WellTyped k live)
    (htold : k = .daemonSet → Meets .daemonSet live ∨ Tellable r live) :
    ∃ verdict, judge k r live = .ok verdict := by
  by_cases hrule : HasRule k
  · rcases hrule with rfl | rfl | rfl
    · obtain ⟨status, hstatus⟩ := hlive
      exact ⟨_, by simp [judge, statusOf_eq_ok.mpr hstatus, bind, Except.bind, pure, Except.pure]; rfl⟩
    · obtain ⟨status, desired, ready, unavailable, hstatus, hcounters⟩ := hlive
      have hn := rolloutOf_eq_ok (n := ⟨desired, ready, unavailable⟩).mpr hcounters
      rcases htold rfl with hmeets | htell
      · obtain ⟨es, hj⟩ := judge_ready (r := r).mpr hmeets
        exact ⟨_, hj⟩
      · obtain ⟨e, he⟩ := (tellable_iff hstatus hn).mp htell
        rw [judge_counted hstatus hn, he]
        cases Rollout.isDone _ with
        | true => exact ⟨_, rfl⟩
        | false => exact ⟨_, rfl⟩
    · obtain ⟨status, hstatus, hlisted⟩ := hlive
      obtain ⟨isReady, hready⟩ := exists_podIsReady hlisted
      have hjudged : judge .pod r live = .ok (answer isReady, []) := by
        simp [judge, statusOf_eq_ok.mpr hstatus, hready, bind, Except.bind, pure, Except.pure]
      exact ⟨_, hjudged⟩
  · exact ⟨_, judge_other hrule⟩

theorem checkIn_placed {ns : Value} (hb : b.get k = some r) (hhome : Home subject r ns) :
    (checkIn cluster subject b k).1 =
      (judgeFetched k r (cluster.get ⟨.str r.kind.name, r.name, ns⟩)).1 := by
  have hl := lookupFor_eq_ok.mpr ⟨ns, hhome, rfl⟩
  simp [checkIn, hb, hl]

/-- A control that comes to an answer finds its resource live, or wanting. -/
theorem checkIn_eq_ok (hb : b.get k = some r) (hk : r.kind = k)
    (ha : (checkIn cluster subject b k).1 = .ok a) :
    a = .ready ∧ IsLive cluster subject r ∨ a ≠ .ready ∧ Wanting cluster subject r := by
  subst hk
  cases hl : lookupFor subject r with
  | error m => simp [checkIn, hb, hl] at ha
  | ok l =>
    obtain ⟨ns, hhome, rfl⟩ := lookupFor_eq_ok.mp hl
    rw [checkIn_placed hb hhome] at ha
    cases hget : cluster.get ⟨.str r.kind.name, r.name, ns⟩ with
    | error f =>
      rw [hget] at ha
      rcases Cluster.get_eq_error hget with ⟨rfl, hw⟩ | ⟨rfl, -⟩ | ⟨rfl, -⟩
      · have hanswer : a = .notReady := by
          simpa [judgeFetched, name_isWritable hl hw, eq_comm] using ha
        exact .inr ⟨by simp [hanswer], .missing hhome hget⟩
      · cases ha
      · cases ha
    | ok live =>
      have hready : a = .ready ↔ Meets r.kind live := by
        rw [← judgeFetched_found (r := r), ← hget, ha]
        simp
      by_cases ha' : a = .ready
      · exact .inl ⟨ha', ns, live, hhome, hget, hready.mp ha'⟩
      · exact .inr ⟨ha', .unmet hhome hget fun hmeets => ha' (hready.mpr hmeets)⟩

/-- A control that comes to no answer ends in a mismatch. -/
theorem checkIn_eq_error (hf : (checkIn cluster subject b k).1 = .error f) : ∃ m, f = .mismatch m := by
  cases hb : b.get k with
  | none => simp [checkIn, hb] at hf
  | some r =>
    cases hl : lookupFor subject r with
    | error m => exact ⟨m, by simpa [checkIn, hb, hl, eq_comm] using hf⟩
    | ok l =>
      obtain ⟨ns, hhome, rfl⟩ := lookupFor_eq_ok.mp hl
      rw [checkIn_placed hb hhome] at hf
      cases hget : cluster.get ⟨.str r.kind.name, r.name, ns⟩ with
      | error f' =>
        rw [hget] at hf
        rcases Cluster.get_eq_error hget with ⟨rfl, hw⟩ | ⟨rfl, -⟩ | ⟨rfl, -⟩
        · simp [judgeFetched, name_isWritable hl hw] at hf
        · exact ⟨.wrongType, by simpa [judgeFetched, eq_comm] using hf⟩
        · exact ⟨.badValue, by simpa [judgeFetched, eq_comm] using hf⟩
      | ok live =>
        rcases hj : judge k r live with m | ⟨a, es⟩
        · exact ⟨m, by simpa [hget, judgeFetched, hj, eq_comm] using hf⟩
        · simp [hget, judgeFetched, hj] at hf

theorem Unplaced.get_eq (hr : Unplaced subject r) {ns : Value} (hhome : Home subject r ns) :
    cluster.get ⟨.str r.kind.name, r.name, ns⟩ = .error (.mismatch .wrongType) := by
  obtain ⟨hscope, hown, shared, hshared, hns⟩ := hr
  obtain rfl := hhome.unique (.shared hscope hown hshared)
  apply Cluster.get_of_not_key
  cases hkey : (Lookup.mk (.str r.kind.name) r.name ns).key? with
  | none => rfl
  | some key =>
    obtain ⟨-, -, hsome⟩ := Lookup.key?_eq_some.mp hkey
    simp [hns] at hsome

theorem Unplaced.not_isLive (hr : Unplaced subject r) : ¬ IsLive cluster subject r := by
  intro hlive
  obtain ⟨ns, live, hhome, hget, -⟩ := hlive
  simp [hr.get_eq hhome] at hget

/-- The counterpart of a resource with textual metadata has a place that can be a key, unless the instance
gives none. -/
theorem exists_place (hr : r.metadata.Textual) (hsubject : ∃ ns, Lends subject ns) :
    ∃ ns, Home subject r ns ∧
      ((∃ key, (Lookup.mk (.str r.kind.name) r.name ns).key? = some key) ∨ Unplaced subject r) := by
  obtain ⟨⟨name, hname⟩, htext⟩ := hr
  have hkey (ns : Value) (nsKey : Option Key) (hns : namespaceKey? ns = some nsKey) :
      (Lookup.mk (.str r.kind.name) r.name ns).key? =
        some ⟨[.str r.kind.name], nsKey, [.str name]⟩ := by
    rw [Lookup.key?_eq_some, Resource.name, hname]
    exact ⟨rfl, rfl, hns⟩
  cases hscope : r.kind.isClusterScoped with
  | true => exact ⟨.null, .nowhere hscope, .inl ⟨_, hkey .null none rfl⟩⟩
  | false =>
    cases hown : r.metadata.namespaceName.isPresent with
    | true =>
      rcases htext with hnull | ⟨ns, hns⟩
      · simp [hnull, Value.isPresent] at hown
      · have hpresent : (Value.str ns).isPresent = true := hns ▸ hown
        refine ⟨_, .own hscope hown, .inl ⟨_, hkey _ (some [.str ns]) ?_⟩⟩
        simp [namespaceKey?, hns, hpresent, Value.key?]
    | false =>
      obtain ⟨ns, hshared⟩ := hsubject
      refine ⟨ns, .shared hscope hown hshared, ?_⟩
      cases hns : namespaceKey? ns with
      | none => exact .inr ⟨hscope, hown, ns, hshared, hns⟩
      | some nsKey => exact .inl ⟨_, hkey ns nsKey hns⟩

theorem Unwritten.not_isLive (hr : Unwritten cluster subject r) : ¬ IsLive cluster subject r := by
  intro hlive
  obtain ⟨ns, live, hhome, hget, hmeets⟩ := hlive
  cases hr with
  | place hhome' _ _ hmissing =>
    cases hhome.unique hhome'
    exact hmissing live hget
  | rollout hhome' hget' _ hrule =>
    cases hhome.unique hhome'
    cases Except.ok.inj (hget.symm.trans hget')
    exact hrule hmeets

/-- A look-up in textual metadata that cannot be written is in such a namespace. -/
theorem namespace_unwritable (hr : r.metadata.Textual) {ns : Value}
    (hw : (Lookup.mk (.str r.kind.name) r.name ns).isWritable = false) : ns.isWritable = false := by
  obtain ⟨name, hname⟩ := hr.name
  simpa [Lookup.isWritable, Resource.name, hname, Value.isWritable] using hw

/-- Where the statuses are well typed, a control comes to an answer; or the instance gives no place to look
at, and the control raises a type error; or what it has to report cannot be written, and it raises a value
error. -/
theorem answers_or_raises (hb : b.get k = some r) (hk : r.kind = k) (hr : r.metadata.Textual)
    (hsubject : ∃ ns, Lends subject ns) (hcluster : cluster.WellTyped) :
    (∃ a, (checkIn cluster subject b k).1 = .ok a) ∨
      Unplaced subject r ∧ (checkIn cluster subject b k).1 = .error (.mismatch .wrongType) ∨
      Unwritten cluster subject r ∧ (checkIn cluster subject b k).1 = .error (.mismatch .badValue) := by
  subst hk
  obtain ⟨ns, hhome, ⟨key, hkey⟩ | hunplaced⟩ := exists_place hr hsubject
  · rw [checkIn_placed hb hhome]
    cases hget : cluster.get ⟨.str r.kind.name, r.name, ns⟩ with
    | error f =>
      rcases Cluster.get_eq_error hget with ⟨rfl, hw⟩ | ⟨rfl, hnone⟩ | ⟨rfl, hw⟩
      · have hname := name_isWritable (lookupFor_eq_ok.mpr ⟨ns, hhome, rfl⟩) hw
        exact .inl ⟨.notReady, by simp [judgeFetched, hname]⟩
      · cases hkey.symm.trans hnone
      · obtain ⟨-, -, hns : namespaceKey? ns = _⟩ := Lookup.key?_eq_some.mp hkey
        exact .inr (.inr ⟨.place hhome (by simp [hns]) (namespace_unwritable hr hw) (by simp [hget]), rfl⟩)
    | ok live =>
      have hlive := hcluster _ _ _ _ hget
      by_cases htold : r.kind = .daemonSet → Meets .daemonSet live ∨ Tellable r live
      · obtain ⟨⟨a, es⟩, hj⟩ := exists_judgement hlive htold
        exact .inl ⟨a, by simp [judgeFetched, hj]⟩
      · simp only [Classical.not_imp, not_or] at htold
        obtain ⟨hk, hrule, htell⟩ := htold
        refine .inr (.inr ⟨.rollout hhome hget hk (hk ▸ hrule) htell, ?_⟩)
        rw [hk] at hlive ⊢
        simp [judgeFetched, judge_untold hlive hrule htell]
  · refine .inr (.inl ⟨hunplaced, ?_⟩)
    rw [checkIn_placed hb hhome, hunplaced.get_eq hhome]
    rfl

/-- What has to be reported and cannot be written is a value error. -/
theorem Unwritten.checkIn_eq (hb : b.get k = some r) (hk : r.kind = k) (hr : r.metadata.Textual)
    (hcluster : cluster.WellTyped) (hunwritten : Unwritten cluster subject r) :
    (checkIn cluster subject b k).1 = .error (.mismatch .badValue) := by
  subst hk
  cases hunwritten with
  | @place ns hhome hkey hns hmissing =>
    rw [checkIn_placed hb hhome]
    obtain ⟨place, hplace⟩ := Option.ne_none_iff_exists'.mp hkey
    obtain ⟨name, hname⟩ := hr.name
    have hl : (Lookup.mk (.str r.kind.name) r.name ns).key? =
        some ⟨[.str r.kind.name], place, [.str name]⟩ := by
      rw [Lookup.key?_eq_some, Resource.name, hname]
      exact ⟨rfl, rfl, hplace⟩
    cases hget : cluster.get ⟨.str r.kind.name, r.name, ns⟩ with
    | ok live => exact absurd hget (hmissing live)
    | error f =>
      rcases Cluster.get_eq_error hget with ⟨-, hw⟩ | ⟨-, hnone⟩ | ⟨rfl, -⟩
      · simp [Lookup.isWritable, hns] at hw
      · cases hl.symm.trans hnone
      · rfl
  | rollout hhome hget hk hrule htell =>
    have hlive := hcluster _ _ _ _ hget
    rw [checkIn_placed hb hhome, hget]
    rw [hk] at hlive hrule ⊢
    simp [judgeFetched, judge_untold hlive hrule htell]

end Readiness
end StageGate
