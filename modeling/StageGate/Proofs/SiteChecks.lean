import StageGate.Proofs.ClusterContents
import StageGate.Proofs.DecodedMetadata
import StageGate.Proofs.MappingLookups
import StageGate.Proofs.ReadinessRules
import StageGate.Proofs.StoppingPlace
import StageGate.Reconcile.Site

/-!
Checks at a site. The control of a kind comes to what the cluster, the instance and the bundle make of it,
and leaves the site as it is; so a sweep over such controls is known from the cluster, one check at a
time. An instance found under its key lends its resources the namespace of its identity.
-/

namespace StageGate

theorem Value.isWritable_of_absent {v : Value} (hv : v.isPresent = false) : v.isWritable = true := by
  cases v with
  | int n =>
    obtain rfl : n = 0 := by simpa [isPresent] using hv
    decide +kernel
  | list items | tuple items | set items =>
    obtain rfl : items = [] := by simpa [isPresent] using hv
    rfl
  | map ordered es =>
    obtain rfl : es = [] := by simpa [isPresent] using hv
    rfl
  | _ => rfl

section
variable {World : Type}

theorem Host.Reads.get_eq {h : Host World} {site : World → Site} (hh : h.Reads site) (l : Lookup)
    (t : Token) (w : World) :
    ∃ w', h.get l t w = ((site w).cluster.get l, t, w') ∧ site w' = site w :=
  ⟨(h.get l t w).2.2, Prod.ext (hh.result l t w) (Prod.ext (hh.token l t w) rfl), hh.site l t w⟩

end

/-- Where the live counterpart of a resource is found for a managed instance. -/
def Resource.placeFor (r : Resource) (i : Identity) : Lookup :=
  let ns := if r.kind.isClusterScoped then .null
    else if r.metadata.namespaceName.isPresent then r.metadata.namespaceName
    else .str i.namespaceName
  ⟨.str r.kind.name, r.name, ns⟩

namespace Readiness

variable {World : Type} {h : Host World} {site : World → Site} {subject live : Value} {b : Bundle}
  {k : Kind} {r : Resource} {l : Lookup} {m : Mismatch} {cluster large small : Cluster} {i : Identity}
  {key : ObjectKey} {t : Token} {w : World}

/-- What the control of a kind comes to in a cluster, and the effects on the way. -/
def checkIn (cluster : Cluster) (subject : Value) (b : Bundle) (k : Kind) :
    Except Fault Answer × List Effect :=
  match b.get k with
  | none => (.ok .notReady, [])
  | some r =>
    match lookupFor subject r with
    | .error m => (.error (.mismatch m), [])
    | .ok l =>
      let judged := judgeFetched k r (cluster.get l)
      (judged.1, .lookup l :: judged.2.map .logged)

/-- With look-ups answered by a cluster, a control does no more than look up. -/
theorem control_checkIn (hh : h.Reads site) (subject : Value) (b : Bundle) (k : Kind) (t : Token)
    (w : World) :
    let ran := (control World k).run h subject b t w
    ran.result = (checkIn (site w).cluster subject b k).1 ∧
      ran.effects = (checkIn (site w).cluster subject b k).2 ∧ ran.token = t ∧
        site ran.world = site w := by
  intro ran
  cases hb : b.get k with
  | none => simp [ran, control, checkIn, hb]
  | some r =>
    cases hl : lookupFor subject r with
    | error m => simp [ran, control, checkIn, hb, hl, checkResource]
    | ok l =>
      simp [ran, control, checkIn, hb, hl, checkResource, Host.fetch, hh.result, hh.token, hh.site]

/-- A cluster plays a part only by what it has for the look-up of the control. -/
theorem checkIn_congr (hget : ∀ r l, b.get k = some r → lookupFor subject r = .ok l →
      large.get l = small.get l) : checkIn large subject b k = checkIn small subject b k := by
  unfold checkIn
  cases hb : b.get k with
  | none => rfl
  | some r =>
    cases hl : lookupFor subject r with
    | error m => simp only [hl]
    | ok l => simp only [hl, hget r l hb hl]

/-- The look-up of the control of a kind can be written, if it makes one. -/
def LooksUpWritable (subject : Value) (b : Bundle) (k : Kind) : Prop :=
  ∀ r l, b.get k = some r → lookupFor subject r = .ok l → l.isWritable = true

theorem name_isWritable (hl : lookupFor subject r = .ok l) (hw : l.isWritable = true) :
    r.name.isWritable = true := by
  obtain ⟨ns, -, rfl⟩ := lookupFor_eq_ok.mp hl
  simp only [Lookup.isWritable, Bool.and_eq_true] at hw
  exact hw.1.2

/-- A namespace with the key of a text can be written. -/
theorem isWritable_of_namespaceKey {ns : Value} {text : String}
    (hns : namespaceKey? ns = namespaceKey? (.str text)) : ns.isWritable = true := by
  unfold namespaceKey? at hns
  cases hpresent : ns.isPresent with
  | false => exact Value.isWritable_of_absent hpresent
  | true =>
    cases htext : (Value.str text).isPresent with
    | false => simp [hpresent, htext] at hns
    | true =>
      have hkey : ns.key? = some [.str text] := by simpa [hpresent, htext, Value.key?] using hns
      rw [Value.key?_eq_str.mp hkey]
      rfl

/-- A live counterpart that is missing is not ready, or its absence cannot be reported. -/
theorem checkIn_missing (hb : b.get k = some r) (hl : lookupFor subject r = .ok l) (hk : l.key? = some key)
    (hf : cluster.find? key = none) : (checkIn cluster subject b k).1 = .ok .notReady ∨
      l.isWritable = false ∧ (checkIn cluster subject b k).1 = .error (.mismatch .badValue) := by
  cases hw : l.isWritable with
  | true =>
    left
    simp [checkIn, hb, hl, Cluster.get_of_key hk, hf, Lookup.absence, hw, judgeFetched,
      name_isWritable hl hw]
  | false =>
    right
    simp [checkIn, hb, hl, Cluster.get_of_key hk, hf, Lookup.absence, hw, judgeFetched]

/-- More live objects can change only what a control finds wanting, or cannot report as such. -/
theorem checkIn_extends (hext : large.Extends small) (hne : (checkIn small subject b k).1 ≠ .ok .notReady)
    (hw : (checkIn small subject b k).1 = .ok .ready ∨ LooksUpWritable subject b k) :
    checkIn large subject b k = checkIn small subject b k := by
  refine checkIn_congr fun r l hb hl => Cluster.get_congr fun key hk => ?_
  cases hf : small.find? key with
  | some live => exact hext key live hf
  | none =>
    exfalso
    rcases checkIn_missing hb hl hk hf with hnotReady | ⟨hunwritable, hraised⟩
    · exact hne hnotReady
    · rcases hw with hready | hw
      · cases hready.symm.trans hraised
      · cases hunwritable.symm.trans (hw r l hb hl)

/-- A live counterpart that meets the rule of its kind is ready. -/
theorem checkIn_ready (hb : b.get k = some r) (hl : lookupFor subject r = .ok l)
    (hg : cluster.get l = .ok live) (hmeets : Meets k live) :
    (checkIn cluster subject b k).1 = .ok .ready := by
  simpa [checkIn, hb, hl] using judgeFetched_ready.mpr ⟨live, hg, hmeets⟩

theorem lends_of_lookupOf (hl : Cluster.lookupOf subject = .ok l) : Lends subject l.namespaceName := by
  obtain ⟨es, ms, hes, -, -, hms, -, rfl⟩ := Cluster.lookupOf_eq_ok.mp hl
  exact .stated hes hms

/-- For an instance put under a key with the namespace of its identity, the control of a resource looks
where the resource has its place for the identity. -/
theorem lookupFor_of_keyed (hkeyed : Cluster.Keyed subject key)
    (hns : namespaceKey? (.str i.namespaceName) = some key.namespaceName) (r : Resource) :
    ∃ l, lookupFor subject r = .ok l ∧ l.key? = (r.placeFor i).key? := by
  obtain ⟨l, hl, hk⟩ := hkeyed
  obtain ⟨-, -, hns'⟩ := Lookup.key?_eq_some.mp hk
  have hshared := lends_of_lookupOf hl
  unfold Resource.placeFor
  cases hscope : r.kind.isClusterScoped with
  | true => exact ⟨_, lookupFor_eq_ok.mpr ⟨_, .nowhere hscope, rfl⟩, rfl⟩
  | false =>
    cases hown : r.metadata.namespaceName.isPresent with
    | true => exact ⟨_, lookupFor_eq_ok.mpr ⟨_, .own hscope hown, rfl⟩, by simp⟩
    | false =>
      refine ⟨_, lookupFor_eq_ok.mpr ⟨_, .shared hscope hown hshared, rfl⟩, ?_⟩
      exact Lookup.key?_congr (hns'.trans hns.symm)

/-- For such an instance, and a resource with textual metadata, the look-up can be written. -/
theorem looksUpWritable_of_keyed (hkeyed : Cluster.Keyed subject key)
    (hns : namespaceKey? (.str i.namespaceName) = some key.namespaceName)
    (hb : ∀ r, b.get k = some r → r.metadata.Textual) : LooksUpWritable subject b k := by
  intro r l hr hl
  have htextual := hb r hr
  obtain ⟨ns, hhome, rfl⟩ := lookupFor_eq_ok.mp hl
  have hplace : ns.isWritable = true := by
    cases hhome with
    | nowhere => rfl
    | own _ hpresent =>
      rcases htextual.namespaceName with hnull | ⟨s, hs⟩
      · simp [hnull, Value.isPresent] at hpresent
      · rw [hs]
        rfl
    | shared _ _ hshared =>
      obtain ⟨l, hl, hk⟩ := hkeyed
      obtain ⟨-, -, hns'⟩ := Lookup.key?_eq_some.mp hk
      obtain rfl := hshared.unique (lends_of_lookupOf hl)
      exact isWritable_of_namespaceKey (hns'.trans hns.symm)
  simp only [Lookup.isWritable, Value.isWritable, Resource.name, htextual.isWritable, hplace, Bool.and_self]

end Readiness

section
variable {World : Type} {h : Host World} {site : World → Site} {subject : Value} {c : Check World}
  {cs : List (Check World)} {cluster large small : Cluster} {x : Except Fault Answer} {f : Fault} {t : Token}
  {w : World} {p : Ran World (Option Fault)}

/-- The check is that of the control of a kind, and this comes to a result in the cluster. -/
def Check.ComesTo (c : Check World) (cluster : Cluster) (subject : Value) (x : Except Fault Answer) :
    Prop :=
  ∃ k, c.control = Readiness.control World k ∧
    (Readiness.checkIn cluster subject c.stage.bundle k).1 = x

theorem Check.comesTo_run (hh : h.Reads site) (hc : ∃ k, c.control = Readiness.control World k)
    (subject : Value) (t : Token) (w : World) :
    c.ComesTo (site w).cluster subject (c.run h subject t w).result ∧
      (c.run h subject t w).token = t ∧ site (c.run h subject t w).world = site w := by
  obtain ⟨k, hk⟩ := hc
  have hrun : c.run h subject t w = (Readiness.control World k).run h subject c.stage.bundle t w := by
    rw [← hk]
    rfl
  obtain ⟨hresult, -, htoken, hsite⟩ := Readiness.control_checkIn hh subject c.stage.bundle k t w
  rw [hrun]
  exact ⟨⟨k, hk, hresult.symm⟩, htoken, hsite⟩

theorem Check.ComesTo.run (hh : h.Reads site) (hc : c.ComesTo (site w).cluster subject x) :
    (c.run h subject t w).result = x := by
  obtain ⟨k, hk, hx⟩ := hc
  rw [← hx, ← (Readiness.control_checkIn hh subject c.stage.bundle k t w).1, ← hk]
  rfl

/-- What is ready stays ready with more live objects. -/
theorem Check.ComesTo.extends_ready (hc : c.ComesTo small subject (.ok .ready))
    (hext : large.Extends small) : c.ComesTo large subject (.ok .ready) := by
  obtain ⟨k, hk, hready⟩ := hc
  refine ⟨k, hk, ?_⟩
  rw [Readiness.checkIn_extends hext (by simp [hready]) (.inl hready), hready]

/-- A fault that is raised is raised with more live objects too, if absences can be reported. -/
theorem Check.ComesTo.extends_error (hc : c.ComesTo small subject (.error f))
    (hw : ∀ k, Readiness.LooksUpWritable subject c.stage.bundle k) (hext : large.Extends small) :
    c.ComesTo large subject (.error f) := by
  obtain ⟨k, hk, hraised⟩ := hc
  refine ⟨k, hk, ?_⟩
  rw [Readiness.checkIn_extends hext (by simp [hraised]) (.inr (hw k)), hraised]

theorem exists_passes (hh : h.Reads site) (ht : ∀ v, t.fired (h.now v) = false)
    (hcs : ∀ c ∈ cs, c.ComesTo (site w).cluster subject (.ok .ready)) :
    ∃ p, Passes h subject cs t w p := by
  let reached (t' : Token) (w' : World) : Prop := t' = t ∧ site w' = site w
  have hquiet : ∀ t' w', reached t' w' → t'.fired (h.now w') = false := by
    rintro _ w' ⟨rfl, -⟩
    exact ht w'
  have hready : ∀ c ∈ cs, ∀ t' w', reached t' w' → (c.run h subject t' w').result = .ok .ready ∧
      reached (c.run h subject t' w').token (c.run h subject t' w').world := by
    rintro c hc t' w' ⟨rfl, hsite⟩
    have hcomes := hcs c hc
    obtain ⟨k, hk, -⟩ := id hcomes
    obtain ⟨-, htoken, hsite'⟩ := Check.comesTo_run hh ⟨k, hk⟩ subject t' w'
    rw [← hsite] at hcomes
    exact ⟨hcomes.run hh, htoken, hsite'.trans hsite⟩
  obtain ⟨p, hp, hnone⟩ := Sweep.exists_passed reached ⟨rfl, rfl⟩ hquiet hready
  exact ⟨p, hp, hnone⟩

theorem Passes.comesTo (hh : h.Reads site)
    (hkinds : ∀ c ∈ cs, ∃ k, c.control = Readiness.control World k)
    (hp : Passes h subject cs t w p) :
    (∀ c ∈ cs, c.ComesTo (site w).cluster subject (.ok .ready)) ∧ p.token = t ∧
      site p.world = site w := by
  let reached (t' : Token) (w' : World) : Prop := t' = t ∧ site w' = site w
  have hkeep : ∀ c ∈ cs, ∀ t' w', reached t' w' →
      reached (c.run h subject t' w').token (c.run h subject t' w').world := by
    rintro c hc t' w' ⟨rfl, hsite⟩
    obtain ⟨-, htoken, hsite'⟩ := Check.comesTo_run hh (hkinds c hc) subject t' w'
    exact ⟨htoken, hsite'.trans hsite⟩
  obtain ⟨hready, hend⟩ := hp.sweep.all_ready reached hp.passed ⟨rfl, rfl⟩ hkeep
  refine ⟨fun c hc => ?_, hend⟩
  obtain ⟨t', w', ⟨-, hsite⟩, hr⟩ := hready c hc
  have hcomes := (Check.comesTo_run hh (hkinds c hc) subject t' w').1
  rwa [hr, hsite] at hcomes

end
end StageGate
