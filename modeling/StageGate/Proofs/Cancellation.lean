import StageGate.Proofs.StoppingPlace

/-!
Cancellation. A token that fires stays fired as long as nothing postpones it, and the main result says
what the rest of the reconcile comes to: what is in progress comes back, nothing else begins, and the
reconcile is cancelled before the next check or converges if there is none.
-/

namespace StageGate

namespace Deadline

theorem reached_mono {d : Deadline} {now later : Rat} (hle : now ≤ later)
    (hd : d.reached now = true) : d.reached later = true := by
  cases d with
  | past => rfl
  | never => simp [reached] at hd
  | «at» moment =>
    simp only [reached, decide_eq_true_eq] at hd ⊢
    exact Rat.le_trans hd hle

end Deadline

section
variable {World : Type}

/-- From one moment to another the clock is not turned back, a cancellation is not taken back, and the
deadline is not postponed. -/
structure Host.Later (h : Host World) (t : Token) (w : World) (t' : Token) (w' : World) : Prop where
  clock : h.now w ≤ h.now w'
  cancelled : t.cancelled = true → t'.cancelled = true
  deadline : ∀ d, t.deadline = some d → ∃ d', t'.deadline = some d' ∧
    ∀ now, d.reached now = true → d'.reached now = true

theorem Host.Later.refl (h : Host World) (t : Token) (w : World) : h.Later t w t w :=
  ⟨Rat.le_refl, id, fun d hd => ⟨d, hd, fun _ => id⟩⟩

theorem Host.Later.fired {h : Host World} {t t' : Token} {w w' : World} (hl : h.Later t w t' w')
    (ht : t.fired (h.now w) = true) : t'.fired (h.now w') = true := by
  rw [Token.fired, Bool.or_eq_true] at ht ⊢
  rcases ht with hc | hd
  · exact .inl (hl.cancelled hc)
  · obtain ⟨d, hd, hreached⟩ := (Option.any_eq_true _ _).mp hd
    obtain ⟨d', hd', hsooner⟩ := hl.deadline d hd
    have hreached' := Deadline.reached_mono hl.clock (hsooner _ hreached)
    exact .inr ((Option.any_eq_true _ _).mpr ⟨d', hd', hreached'⟩)

end

namespace Reconciler

/-- A moment of a reconcile: the checks that have begun, all that has been done once the look-up or the
control in progress comes back, and a token and a world. While one is in progress, they may be any from
which it comes back later. -/
inductive Moment {World : Type} (settings : Settings World) (h : Host World) (c : Catalog World)
    (i : Identity) (t : Token) (w : World) :
    List (Check World) → List Effect → Token → World → Prop where
  | start : Moment settings h c i t w [] [] t w
  | fetching {result t' w' t₁ w₁} (ht : t.fired (h.now w) = false)
      (hg : h.get (instanceLookup settings i) t w = (result, t', w')) (hl : h.Later t₁ w₁ t' w') :
      Moment settings h c i t w [] [.lookup (instanceLookup settings i)] t₁ w₁
  | checking {subject t' w' ss before check after p t₁ w₁} (ht : t.fired (h.now w) = false)
      (hg : h.get (instanceLookup settings i) t w = (.ok subject, t', w'))
      (hss : (c.stages settings.source w').2.result = .ok ss)
      (hsplit : checksFrom 0 ss = before ++ check :: after)
      (hp : Passes h subject before t' w' p) (hbegun : p.token.fired (h.now p.world) = false)
      (hl : h.Later t₁ w₁ (check.run h subject p.token p.world).token
        (check.run h subject p.token p.world).world) :
      Moment settings h c i t w (before ++ [check])
        (.lookup (instanceLookup settings i) :: p.effects ++ check.effects h subject p.token p.world)
        t₁ w₁

variable {World : Type} {settings : Settings World} {h : Host World} {r : Reconciler World}
  {i : Identity} {t t' : Token} {w w' : World} {subject : Value} {ss : List (Stage World)}

  {begun rest : List (Check World)} {es : List Effect} {t₁ : Token} {w₁ : World}
  {p : Ran World (Option Fault)}

/-- A token that has fired once some checks are passed cancels the reconcile before the next one, and
changes nothing if there is none. -/
theorem Coherent.reconcileWith_fired (hr : Coherent settings r) (ht : t.fired (h.now w) = false)
    (hg : h.get (instanceLookup settings i) t w = (.ok subject, t', w'))
    (hss : (r.catalog.stages settings.source w').2.result = .ok ss)
    (hsplit : checksFrom 0 ss = begun ++ rest) (hp : Passes h subject begun t' w' p)
    (hfired : p.token.fired (h.now p.world) = true) :
    let ran := r.reconcileWith settings h i t w
    ran.token = p.token ∧ ran.world = p.world ∧
      Stepper.acts ran.effects = .lookup (instanceLookup settings i) :: Stepper.acts p.effects ∧
      ∃ s, ran.result.1.registry.find? i = some s ∧ s.stages = ss ∧
        (rest = [] → ran.result.2 = .ok .done ∧ s.phase = .converged ∧ s.cursor = ss.length) ∧
        ∀ c cs, rest = c :: cs → ran.result.2 = .ok (.retry c.cancelled) ∧ s.phase = .blocked ∧
          s.cursor = c.position ∧ s.lastFault = some c.cancelled := by
  intro ran
  obtain ⟨swept, s, hs⟩ := hr.reconcileWith_swept ht hg hss
  cases rest with
  | nil =>
    rw [List.append_nil] at hsplit
    have hall : Passes h subject (checksFrom 0 ss) t' w' p := hsplit ▸ hp
    obtain rfl : p = swept := hall.sweep.deterministic hs.sweep
    exact ⟨hs.token, hs.world, hs.acts, s, hs.registered, hs.stages, fun _ => hs.done hall, by simp⟩
  | cons c cs =>
    have hsweep : Sweep h subject (begun ++ c :: cs) t' w' _ :=
      hp.sweep.append_of_passed hp.passed (.cancelled hfired)
    obtain rfl := hs.sweep.deterministic (hsplit ▸ hsweep)
    have hstop : StopsAt h subject (checksFrom 0 ss) t' w' c c.cancelled :=
      hsplit ▸ StopsAt.of_passes hp (.here (.cancelled hfired))
    refine ⟨hs.token, hs.world, ?_, s, hs.registered, hs.stages, by simp, ?_⟩
    · simpa using hs.acts
    · rintro _ _ ⟨⟩
      exact hs.retry hstop

/-- After a moment at which the token has fired nothing is done beyond what was in progress, and the
token has fired at the end too. -/
theorem Moment.acts_eq (hr : Coherent settings r)
    (hm : Moment settings h r.catalog i t w begun es t₁ w₁) (hfired : t₁.fired (h.now w₁) = true) :
    let ran := r.reconcileWith settings h i t w
    ran.token.fired (h.now ran.world) = true ∧ Stepper.acts ran.effects = Stepper.acts es := by
  intro ran
  cases hm with
  | start =>
    simp only [ran, reconcileWith_cancelled hfired]
    exact ⟨hfired, by simp⟩
  | @fetching result t' w' _ _ ht hg hl =>
    have hfired' := hl.fired hfired
    cases result with
    | error f =>
      simp only [ran, reconcileWith_unfetched ht hg]
      exact ⟨hfired', by simp⟩
    | ok subject =>
      cases hss : (r.catalog.stages settings.source w').2.result with
      | error f =>
        obtain ⟨htoken, hworld, hacts⟩ := load_of_error_after h i subject t' hss
        simp only [ran, reconcileWith_fetched ht hg, htoken, hworld]
        exact ⟨hfired', by simp [hacts]⟩
      | ok ss =>
        obtain ⟨htoken, hworld, hacts, -⟩ :=
          hr.reconcileWith_fired ht hg hss (List.nil_append _).symm (passes_nil.mpr rfl) hfired'
        refine ⟨?_, by simpa using hacts⟩
        rwa [htoken, hworld]
  | @checking subject t' w' ss before check after p _ _ ht hg hss hsplit hp hbegun hl =>
    have hfired' := hl.fired hfired
    by_cases hready : (check.run h subject p.token p.world).result = .ok .ready
    · have hpassed : Passes h subject (before ++ [check]) t' w' _ :=
        passes_append.mpr ⟨p, _, hp, passes_cons.mpr ⟨hbegun, hready, _, passes_nil.mpr rfl, rfl⟩, rfl⟩
      have hsplit' : checksFrom 0 ss = (before ++ [check]) ++ after := by simpa using hsplit
      obtain ⟨htoken, hworld, hacts, -⟩ :=
        hr.reconcileWith_fired ht hg hss hsplit' hpassed hfired'
      refine ⟨?_, by simpa using hacts⟩
      rwa [htoken, hworld]
    · obtain ⟨swept, s, hs⟩ := hr.reconcileWith_swept ht hg hss
      obtain ⟨f, hended⟩ := check.sweep_ended hbegun hready after
      have hsweep := hp.sweep.append_of_passed hp.passed hended
      obtain rfl := hs.sweep.deterministic (hsplit ▸ hsweep)
      refine ⟨?_, by simpa using hs.acts⟩
      simp only [ran, hs.token, hs.world]
      exact hfired'

/-- If all goes well with what has begun by a moment at which the token has fired, the token is fired
before the next check. -/
theorem Moment.fired_passed {c : Catalog World} (hm : Moment settings h c i t w begun es t₁ w₁)
    (hfired : t₁.fired (h.now w₁) = true) (ht : t.fired (h.now w) = false)
    (hg : h.get (instanceLookup settings i) t w = (.ok subject, t', w'))
    (hp : Passes h subject begun t' w' p) : p.token.fired (h.now p.world) = true := by
  cases hm with
  | start => simp [ht] at hfired
  | fetching _ hg' hl =>
    cases hg.symm.trans hg'
    obtain rfl := passes_nil.mp hp
    exact hl.fired hfired
  | checking _ hg' _ _ hp' _ hl =>
    cases hg.symm.trans hg'
    obtain ⟨first, second, hfirst, hsecond, rfl⟩ := passes_append.mp hp
    obtain rfl := hfirst.sweep.deterministic hp'.sweep
    obtain ⟨-, -, last, hlast, rfl⟩ := passes_cons.mp hsecond
    obtain rfl := passes_nil.mp hlast
    exact hl.fired hfired

/-- Of a reconcile with a token, after any uses of the reconciler: if the token has fired before it
begins, nothing is looked up and it is cancelled. At whatever later moment the token has fired, it has
fired at the end too, and nothing is done beyond what was in progress; and if the fetch, the loading and
the controls that have begun all go well, the reconcile is cancelled before the first control that has
not begun, with the stepper held up at the stage of that control, or it converges if there is none. -/
theorem nothing_begins_once_fired (settings : Settings World) (uses : List (Use World)) (h : Host World)
    (i : Identity) (t : Token) (w : World) :
    let r := used settings uses
    let ran := r.reconcile settings h i (some t) w
    (t.fired (h.now w) = true →
      ran.result = (r, .ok (.retry (.cancelled (.before "instance fetch")))) ∧
        Stepper.acts ran.effects = []) ∧
    ∀ begun es t₁ w₁, Moment settings h r.catalog i t w begun es t₁ w₁ →
      t₁.fired (h.now w₁) = true →
      (ran.token.fired (h.now ran.world) = true ∧ Stepper.acts ran.effects = Stepper.acts es) ∧
      ∀ subject t' w' ss rest p, t.fired (h.now w) = false →
        h.get (instanceLookup settings i) t w = (.ok subject, t', w') →
        (r.catalog.stages settings.source w').2.result = .ok ss →
        checksFrom 0 ss = begun ++ rest → Passes h subject begun t' w' p →
        ∃ s, ran.result.1.registry.find? i = some s ∧ s.stages = ss ∧
          (rest = [] → ran.result.2 = .ok .done ∧ s.phase = .converged) ∧
          ∀ c cs, rest = c :: cs → ran.result.2 = .ok (.retry c.cancelled) ∧ s.phase = .blocked ∧
            s.cursor = c.position ∧ s.lastFault = some c.cancelled ∧
            ∃ earlier later, ss = earlier ++ c.stage :: later ∧ c.position = earlier.length ∧
              checksFrom 0 earlier <+: begun := by
  intro r ran
  have hr : Coherent settings r := coherent_used settings uses
  refine ⟨fun ht => ?_, fun begun es t₁ w₁ hm hfired => ⟨hm.acts_eq hr hfired, ?_⟩⟩
  · have hcancelled : ran = _ := reconcileWith_cancelled ht
    rw [hcancelled]
    exact ⟨rfl, by simp⟩
  · intro subject t' w' ss rest p ht hg hss hsplit hp
    have hfired' := hm.fired_passed hfired ht hg hp
    obtain ⟨-, -, -, s, hregistered, hstages, hdone, hcancelled⟩ :=
      hr.reconcileWith_fired ht hg hss hsplit hp hfired'
    refine ⟨s, hregistered, hstages, fun hrest => ?_, fun c cs hrest => ?_⟩
    · obtain ⟨houtcome, hphase, -⟩ := hdone hrest
      exact ⟨houtcome, hphase⟩
    · obtain ⟨houtcome, hphase, hcursor, hfault⟩ := hcancelled c cs hrest
      obtain ⟨earlier, later, hss', hposition, hprefix⟩ := checksFrom_split (hrest ▸ hsplit)
      rw [Nat.zero_add] at hposition
      exact ⟨houtcome, hphase, hcursor, hfault, earlier, later, hss', hposition, hprefix⟩

/-! Three stages: the only control of the first cancels the token, and the second has no controls. -/

def cancelsToken : Control Unit :=
  ⟨some "cancels", fun _ _ _ t w => ⟨.ok .ready, t.cancel, w, []⟩⟩

def leavesToken : Control Unit :=
  ⟨some "leaves", fun _ _ _ t w => ⟨.ok .ready, t, w, []⟩⟩

def threeStages : List (Stage Unit) :=
  [⟨"first", "first", .empty, [cancelsToken], [], []⟩, ⟨"second", "second", .empty, [], [], []⟩,
    ⟨"third", "third", .empty, [leavesToken], [], []⟩]

def threeSettings : Settings Unit :=
  ⟨.fixed threeStages, "NodeFeatureDiscovery", .null⟩

/-- A host whose clock stands still and that finds every object. -/
def findsAll : Host Unit :=
  ⟨fun _ => 0, fun _ t w => (.ok (.map false []), t, w)⟩

/-- The reconcile is cancelled before the control of the third stage, past the stage without controls. -/
theorem cancelled_at_third :
    let ran := (used threeSettings []).reconcile threeSettings findsAll ⟨"default", "nfd"⟩
      (some .quiet) ()
    ran.result.2 = .ok (.retry (.cancelled (.before "leaves/None"))) ∧
      ∃ s, ran.result.1.registry.find? ⟨"default", "nfd"⟩ = some s ∧ s.phase = .blocked ∧
        s.cursor = 2 := by
  intro ran
  let first : Check Unit := ⟨⟨"first", "first", .empty, [cancelsToken], [], []⟩, 0, 0, cancelsToken⟩
  let third : Check Unit := ⟨⟨"third", "third", .empty, [leavesToken], [], []⟩, 2, 0, leavesToken⟩
  have hsplit : checksFrom 0 threeStages = [] ++ first :: [third] := rfl
  have hm : Moment threeSettings findsAll (used threeSettings []).catalog ⟨"default", "nfd"⟩ .quiet ()
      [first] _ Token.quiet.cancel () :=
    .checking rfl rfl rfl hsplit (passes_nil.mpr rfl) rfl (.refl ..)
  have hpassed : Passes findsAll (.map false []) [first] .quiet () _ :=
    passes_cons.mpr ⟨rfl, rfl, _, passes_nil.mpr rfl, rfl⟩
  obtain ⟨-, hmoments⟩ :=
    nothing_begins_once_fired threeSettings [] findsAll ⟨"default", "nfd"⟩ .quiet ()
  obtain ⟨-, hcancelled⟩ := hmoments _ _ _ _ hm rfl
  obtain ⟨s, hs, -, -, hthird⟩ := hcancelled _ _ _ _ _ _ rfl rfl rfl hsplit hpassed
  obtain ⟨houtcome, hphase, hcursor, -⟩ := hthird third [] rfl
  exact ⟨houtcome, s, hs, hphase, hcursor⟩

end Reconciler
end StageGate
