import StageGate.Config
import StageGate.Proofs.MappingLookups
import StageGate.Proofs.SchemaChecks

/-!
Which values state a configuration. A mapping states one just if its keys are those of the settings, with
values of their types, and the stages that it lists are named, not empty, and different. Otherwise the first
entry that is wrong is blamed, and the stages only if there is none.
-/

namespace StageGate

theorem Value.unfold_eq_str {container v : Value} {depth : Nat} {s : String}
    (hcontainer : ∀ s, container ≠ .str s) : unfold container depth v = .str s ↔ v = .str s := by
  cases v with
  | enclosing levels =>
    rw [unfold]
    split <;> simp [hcontainer]
  | _ => simp [unfold]

theorem Value.unfoldItems_eq_texts {container : Value} {depth : Nat} {vs : List Value}
    {names : List String} (hcontainer : ∀ s, container ≠ .str s) :
    unfoldItems container depth vs = names.map .str ↔ vs = names.map .str := by
  induction vs generalizing names with
  | nil => simp [unfoldItems]
  | cons v vs ih =>
    cases names with
    | nil => simp [unfoldItems]
    | cons name names => simp [unfoldItems, unfold_eq_str hcontainer, ih]

/-- A list of texts holds no aliases. -/
theorem Value.items_eq_texts {v : Value} {names : List String} :
    v.items? = some (names.map .str) ↔ v = .list (names.map .str) := by
  cases v with
  | list vs => simp [items?, unfoldItems_eq_texts]
  | _ => simp [items?]

namespace Config

/-- The value has the type of the setting. -/
inductive Setting.HasType : Setting → Value → Prop where
  | assetsDir (s : String) : HasType .assetsDir (.str s)
  | stages (vs : List Value) : HasType .stages (.list vs)
  | instanceKind (s : String) : HasType .instanceKind (.str s)
  | integer (n : Int) : HasType .timeout (.int n)
  | decimal (x : Float) : HasType .timeout (.float x)

/-- The entry is under the key of a setting and has its type. -/
def Fits (e : Value × Value) : Prop :=
  ∃ x : Setting, e.1 = .str x.key ∧ x.HasType e.2

/-- Some names, none of them empty, and no two of them the same. -/
structure NamesStages (names : List String) : Prop where
  some : names ≠ []
  named : "" ∉ names
  distinct : names.Nodup

/-- All entries fit, and the stages are named. -/
structure Valid (es : Mapping) : Prop where
  fits : ∀ e ∈ es, Fits e
  stages : ∀ v, es.get? "stages" = some v → ∃ names, v = .list (names.map .str) ∧ NamesStages names

/-- What is set is the value that is given, or the default where none is. -/
inductive Sets {α : Type} (view : α → Value) (default : α) : Option Value → α → Prop where
  | given (a : α) : Sets view default (some (view a)) a
  | absent : Sets view default none default

/-- Each setting has the value given for it, or its default. -/
structure States (es : Mapping) (c : Config) : Prop where
  assetsDir : Sets .str "/opt/nfd" (es.get? "assetsDir") c.assetsDir
  stages : Sets (fun names => .list (names.map .str)) ["master", "worker"] (es.get? "stages") c.stages
  instanceKind : Sets .str "NodeFeatureDiscovery" (es.get? "instanceKind") c.instanceKind
  timeout : Sets id .null (es.get? "timeoutSeconds") c.timeout

/-- Why a value states no configuration. -/
inductive RefusedFor (data : Value) : ConfigCause → Prop where
  | rootNotMapping (hdata : data.entries? = none) : RefusedFor data .rootNotMapping
  | unknownKey {before key v after} (hes : data.entries? = some (before ++ (key, v) :: after))
      (hbefore : ∀ e ∈ before, Fits e) (hkey : ∀ x : Setting, key ≠ .str x.key) :
      RefusedFor data (.unknownKey key)
  | wrongType {before v after} {x : Setting}
      (hes : data.entries? = some (before ++ (.str x.key, v) :: after))
      (hbefore : ∀ e ∈ before, Fits e) (htype : ¬ x.HasType v) :
      RefusedFor data (.wrongType x.key v.typeWord)
  | noStages {es v} (hes : data.entries? = some es) (hfits : ∀ e ∈ es, Fits e)
      (hv : es.get? "stages" = some v)
      (hnames : ∀ names : List String, v = .list (names.map .str) → names = [] ∨ "" ∈ names) :
      RefusedFor data .noStages
  | repeatedStage {es names} (hes : data.entries? = some es) (hfits : ∀ e ∈ es, Fits e)
      (hv : es.get? "stages" = some (.list (names.map .str))) (hsome : names ≠ []) (hnamed : "" ∉ names)
      (hrepeated : ¬ names.Nodup) : RefusedFor data .repeatedStage

/-! Entries. -/

theorem Setting.accepts_iff {x : Setting} {v : Value} : x.accepts v = true ↔ x.HasType v := by
  constructor
  · intro haccepts
    unfold accepts at haccepts
    split at haccepts
    · exact .assetsDir _
    · exact .instanceKind _
    · exact .stages _
    · exact .integer _
    · exact .decimal _
    · cases haccepts
  · intro htype
    cases htype <;> rfl

theorem Setting.ofKey?_eq_some {key : Value} {x : Setting} : ofKey? key = some x ↔ key = .str x.key := by
  constructor
  · intro hkey
    cases key with
    | str s =>
      have hs := List.find?_some hkey
      simp only [beq_iff_eq] at hs
      rw [hs]
    | _ => simp [ofKey?] at hkey
  · rintro rfl
    cases x <;> decide

/-- What is wrong with an entry, if anything is. -/
def fault? (e : Value × Value) : Option ConfigCause :=
  match Setting.ofKey? e.1 with
  | none => some (.unknownKey e.1)
  | some x => if x.accepts e.2 then none else some (.wrongType x.key e.2.typeWord)

theorem firstBadEntry_eq (es : Mapping) : firstBadEntry es = es.findSome? fault? := rfl

variable {es : Mapping} {e : Value × Value} {key v : Value} {x : Setting} {why : ConfigCause}

theorem fault?_eq_none : fault? e = none ↔ Fits e := by
  unfold fault? Fits
  simp only [← Setting.ofKey?_eq_some, ← Setting.accepts_iff]
  cases Setting.ofKey? e.1 with
  | none => simp
  | some x => simp

theorem fault?_unknown (hkey : ∀ x : Setting, key ≠ .str x.key) :
    fault? (key, v) = some (.unknownKey key) := by
  have hnone : Setting.ofKey? key = none := by
    rw [Option.eq_none_iff_forall_ne_some]
    exact fun x hx => hkey x (Setting.ofKey?_eq_some.mp hx)
  simp [fault?, hnone]

theorem fault?_wrong (htype : ¬ x.HasType v) :
    fault? (.str x.key, v) = some (.wrongType x.key v.typeWord) := by
  have hx : Setting.ofKey? (.str x.key) = some x := Setting.ofKey?_eq_some.mpr rfl
  have haccepts : x.accepts v = false := Bool.eq_false_iff.mpr (mt Setting.accepts_iff.mp htype)
  simp [fault?, hx, haccepts]

theorem fault?_eq_some (hfault : fault? (key, v) = some why) :
    (∀ x : Setting, key ≠ .str x.key) ∧ why = .unknownKey key ∨
      ∃ x : Setting, key = .str x.key ∧ ¬ x.HasType v ∧ why = .wrongType x.key v.typeWord := by
  by_cases hkey : ∃ x : Setting, key = .str x.key
  · obtain ⟨x, rfl⟩ := hkey
    have htype : ¬ x.HasType v := by
      intro htype
      rw [fault?_eq_none.mpr ⟨x, rfl, htype⟩] at hfault
      cases hfault
    rw [fault?_wrong htype] at hfault
    exact .inr ⟨x, rfl, htype, (Option.some.inj hfault).symm⟩
  · have hkey : ∀ x : Setting, key ≠ .str x.key := not_exists.mp hkey
    rw [fault?_unknown hkey] at hfault
    exact .inl ⟨hkey, (Option.some.inj hfault).symm⟩

theorem firstBadEntry_eq_none_iff : firstBadEntry es = none ↔ ∀ e ∈ es, Fits e := by
  simp only [firstBadEntry_eq, List.findSome?_eq_none_iff, fault?_eq_none]

theorem firstBadEntry_eq_some_iff : firstBadEntry es = some why ↔ ∃ before key v after,
    es = before ++ (key, v) :: after ∧ (∀ e ∈ before, Fits e) ∧ fault? (key, v) = some why := by
  rw [firstBadEntry_eq, List.findSome?_eq_some_iff]
  constructor
  · rintro ⟨before, ⟨key, v⟩, after, rfl, hfault, hbefore⟩
    exact ⟨before, key, v, after, rfl, fun e he => fault?_eq_none.mp (hbefore e he), hfault⟩
  · rintro ⟨before, key, v, after, rfl, hbefore, hfault⟩
    exact ⟨before, (key, v), after, rfl, hfault, fun e he => fault?_eq_none.mpr (hbefore e he)⟩

/-- The value under the key of a setting has its type. -/
theorem hasType_of_fits (hfits : ∀ e ∈ es, Fits e) (hv : es.get? x.key = some v) : x.HasType v := by
  have hhas : es.has x.key = true := by simp [Mapping.has, hv]
  have hmem := Mapping.mem_of_has hhas
  rw [Mapping.get, hv, Option.getD_some] at hmem
  obtain ⟨y, hkey, htype⟩ := hfits _ hmem
  have hsame : x = y := by
    rw [← Option.some.injEq, ← Setting.ofKey?_eq_some.mpr rfl]
    exact Setting.ofKey?_eq_some.mpr hkey
  rwa [hsame]

/-! Stages. -/

theorem stageName?_eq_some {name : String} : stageName? v = some name ↔ v = .str name ∧ name ≠ "" := by
  cases v with
  | str s =>
    by_cases hs : s = ""
    · subst hs
      simp [stageName?, eq_comm]
    · simp only [stageName?, beq_iff_eq, hs, ↓reduceIte, Option.some.injEq, Value.str.injEq]
      constructor
      · rintro rfl
        exact ⟨rfl, hs⟩
      · exact And.left
  | _ => simp [stageName?]

theorem mapM_stageName? {vs : List Value} {names : List String} :
    vs.mapM stageName? = some names ↔ vs = names.map .str ∧ "" ∉ names := by
  induction vs generalizing names with
  | nil => cases names <;> simp
  | cons v vs ih =>
    cases names with
    | nil => simp [List.mapM_cons, Option.bind_eq_some_iff]
    | cons name names =>
      simp only [List.mapM_cons, bind, Option.bind_eq_some_iff, pure, stageName?_eq_some, ih,
        Option.some.injEq, List.cons.injEq, List.map_cons, List.mem_cons, not_or]
      constructor
      · rintro ⟨_, ⟨rfl, hname⟩, _, ⟨rfl, hnames⟩, rfl, rfl⟩
        exact ⟨⟨rfl, rfl⟩, hname.symm, hnames⟩
      · rintro ⟨⟨rfl, rfl⟩, hname, hnames⟩
        exact ⟨name, ⟨rfl, fun h => hname h.symm⟩, names, ⟨rfl, hnames⟩, rfl, rfl⟩

/-- A list names stages, or it does not name some, or it names one twice. -/
theorem stagesOf_cases (vs : List Value) :
    (∃ names, stagesOf vs = .ok names ∧ vs = names.map .str ∧ NamesStages names) ∨
    (stagesOf vs = .error .noStages ∧
      ∀ names : List String, vs = names.map .str → names = [] ∨ "" ∈ names) ∨
    (stagesOf vs = .error .repeatedStage ∧
      ∃ names : List String, vs = names.map .str ∧ names ≠ [] ∧ "" ∉ names ∧ ¬ names.Nodup) := by
  unfold stagesOf
  cases hnames : vs.mapM stageName? with
  | none =>
    refine .inr (.inl ⟨rfl, fun names hvs => .inr ?_⟩)
    by_contra hnamed
    rw [mapM_stageName?.mpr ⟨hvs, hnamed⟩] at hnames
    cases hnames
  | some names =>
    obtain ⟨hvs, hnamed⟩ := mapM_stageName?.mp hnames
    cases names with
    | nil =>
      refine .inr (.inl ⟨rfl, fun names hvs' => .inl ?_⟩)
      simpa using hvs.symm.trans hvs'
    | cons name names =>
      by_cases hdistinct : (name :: names).Nodup
      · exact .inl ⟨name :: names, by simp [hdistinct], hvs, by simp, hnamed, hdistinct⟩
      · exact .inr (.inr ⟨by simp [hdistinct], name :: names, hvs, by simp, hnamed, hdistinct⟩)

/-- The stages that are set. -/
def stagesIn (es : Mapping) : Except ConfigCause (List String) :=
  match es.get? "stages" with
  | some v => stagesOf (v.items?.getD [])
  | none => .ok ["master", "worker"]

theorem stagesIn_cases (hfits : ∀ e ∈ es, Fits e) :
    (∃ names, stagesIn es = .ok names ∧
      Sets (fun names => .list (names.map .str)) ["master", "worker"] (es.get? "stages") names ∧
      ∀ v, es.get? "stages" = some v → ∃ names, v = .list (names.map .str) ∧ NamesStages names) ∨
    (stagesIn es = .error .noStages ∧ ∃ v, es.get? "stages" = some v ∧
      ∀ names : List String, v = .list (names.map .str) → names = [] ∨ "" ∈ names) ∨
    (stagesIn es = .error .repeatedStage ∧ ∃ names : List String,
      es.get? "stages" = some (.list (names.map .str)) ∧ names ≠ [] ∧ "" ∉ names ∧ ¬ names.Nodup) := by
  unfold stagesIn
  cases hv : es.get? "stages" with
  | none => exact .inl ⟨_, rfl, .absent, by simp⟩
  | some v =>
    obtain ⟨vs, hvs⟩ : ∃ vs, v.items? = some vs := by
      cases hasType_of_fits (x := .stages) hfits hv with
      | stages vs => exact ⟨_, rfl⟩
    simp only [hvs, Option.getD_some, Option.some.injEq, exists_eq_left', forall_eq']
    simp only [← Value.items_eq_texts, hvs, Option.some.injEq]
    rcases stagesOf_cases vs with ⟨names, hnames, rfl, hvalid⟩ | ⟨hnone, hnames⟩ | ⟨hrepeated, hnames⟩
    · rw [Value.items_eq_texts.mp hvs]
      exact .inl ⟨names, hnames, .given names, names, rfl, hvalid⟩
    · exact .inr (.inl ⟨hnone, hnames⟩)
    · obtain ⟨names, hvs', hnames⟩ := hnames
      exact .inr (.inr ⟨hrepeated, names, hvs', hnames⟩)

/-! Configurations. -/

theorem sets_text (hfits : ∀ e ∈ es, Fits e) (hx : ∀ v, x.HasType v → ∃ s, v = .str s)
    (default : String) : Sets .str default (es.get? x.key) (textOr default (es.get? x.key)) := by
  cases hv : es.get? x.key with
  | none => exact .absent
  | some v =>
    obtain ⟨s, rfl⟩ := hx v (hasType_of_fits hfits hv)
    exact .given s

theorem sets_value (es : Mapping) (key : String) : Sets id .null (es.get? key) (es.get key) := by
  unfold Mapping.get
  cases es.get? key with
  | none => exact .absent
  | some v => exact .given v

/-- Where all entries fit, the stages decide. -/
theorem ofEntries_of_fits (hfits : ∀ e ∈ es, Fits e) :
    ofEntries es = (stagesIn es).map fun stages =>
      ⟨textOr "/opt/nfd" (es.get? "assetsDir"), stages,
        textOr "NodeFeatureDiscovery" (es.get? "instanceKind"), es.get "timeoutSeconds"⟩ := by
  have hgood : firstBadEntry es = none := firstBadEntry_eq_none_iff.mpr hfits
  have hkey : Setting.stages.key = "stages" := rfl
  unfold ofEntries stagesIn
  simp only [hgood, hkey]
  cases es.get? "stages" with
  | none => rfl
  | some v => cases stagesOf (v.items?.getD []) <;> rfl

variable {data : Value}

theorem ofValue_of_entries (hes : data.entries? = some es) :
    ofValue data = (ofEntries es).mapError ConfigCause.fault := by
  simp [ofValue, hes]

theorem ofEntries_of_fault {before after : Mapping} (hbefore : ∀ e ∈ before, Fits e)
    (hfault : fault? (key, v) = some why) : ofEntries (before ++ (key, v) :: after) = .error why := by
  have hbad := firstBadEntry_eq_some_iff.mpr ⟨before, key, v, after, rfl, hbefore, hfault⟩
  simp [ofEntries, hbad]

theorem ofValue_cases (data : Value) :
    (∃ es c, ofValue data = .ok c ∧ data.entries? = some es ∧ Valid es ∧ States es c) ∨
      ∃ why, ofValue data = .error why.fault ∧ RefusedFor data why := by
  cases hes : data.entries? with
  | none => exact .inr ⟨_, by simp [ofValue, hes], .rootNotMapping hes⟩
  | some es =>
    rw [ofValue_of_entries hes]
    cases hbad : firstBadEntry es with
    | some why =>
      refine .inr ⟨why, by simp [ofEntries, hbad, Except.mapError], ?_⟩
      obtain ⟨before, key, v, after, rfl, hbefore, hfault⟩ := firstBadEntry_eq_some_iff.mp hbad
      rcases fault?_eq_some hfault with ⟨hkey, rfl⟩ | ⟨x, rfl, htype, rfl⟩
      · exact .unknownKey hes hbefore hkey
      · exact .wrongType hes hbefore htype
    | none =>
      have hfits := firstBadEntry_eq_none_iff.mp hbad
      rw [ofEntries_of_fits hfits]
      rcases stagesIn_cases hfits with ⟨names, hnames, hset, hvalid⟩ | ⟨hnone, v, hv, hnames⟩ |
        ⟨hrepeated, names, hv, hsome, hnamed, htwice⟩
      · rw [hnames]
        refine .inl ⟨es, _, rfl, rfl, ⟨hfits, hvalid⟩, ?_, hset, ?_, sets_value es _⟩
        · refine sets_text (x := .assetsDir) hfits (fun v htype => ?_) _
          cases htype with
          | assetsDir s => exact ⟨s, rfl⟩
        · refine sets_text (x := .instanceKind) hfits (fun v htype => ?_) _
          cases htype with
          | instanceKind s => exact ⟨s, rfl⟩
      · rw [hnone]
        exact .inr ⟨_, rfl, .noStages hes hfits hv hnames⟩
      · rw [hrepeated]
        exact .inr ⟨_, rfl, .repeatedStage hes hfits hv hsome hnamed htwice⟩

theorem exists_states {c : Config} (hc : ofValue data = .ok c) :
    ∃ es, data.entries? = some es ∧ Valid es ∧ States es c := by
  rcases ofValue_cases data with ⟨es, c', hc', hes, hvalid, hstates⟩ | ⟨why, hwhy, -⟩
  · cases hc.symm.trans hc'
    exact ⟨es, hes, hvalid, hstates⟩
  · cases hc.symm.trans hwhy

theorem Sets.given_or_absent {α : Type} {view : α → Value} {default a : α} {given : Option Value}
    (h : Sets view default given a) : given = some (view a) ∨ given = none ∧ a = default := by
  cases h with
  | given => exact .inl rfl
  | absent => exact .inr ⟨rfl, rfl⟩

theorem texts_inj {names names' : List String}
    (heq : Value.list (names.map .str) = .list (names'.map .str)) : names = names' :=
  List.map_injective_iff.mpr (fun _ _ => Value.str.inj) (Value.list.inj heq)

theorem RefusedFor.not_valid (hwhy : RefusedFor data why) (hes : data.entries? = some es) : ¬ Valid es := by
  rintro ⟨hfits, hstages⟩
  cases hwhy with
  | rootNotMapping hdata => simp [hes] at hdata
  | unknownKey hes' _ hkey =>
    cases hes.symm.trans hes'
    obtain ⟨x, hx, -⟩ := hfits _ (List.mem_append_right _ List.mem_cons_self)
    exact hkey x hx
  | @wrongType before v after x hes' _ htype =>
    cases hes.symm.trans hes'
    have hfits := hfits _ (List.mem_append_right _ List.mem_cons_self)
    exact absurd (fault?_eq_none.mpr hfits) (by simp [fault?_wrong htype])
  | noStages hes' _ hv hnames =>
    cases hes.symm.trans hes'
    obtain ⟨names, rfl, hsome, hnamed, -⟩ := hstages _ hv
    rcases hnames names rfl with hnil | hempty
    · exact hsome hnil
    · exact hnamed hempty
  | repeatedStage hes' _ hv _ _ hrepeated =>
    cases hes.symm.trans hes'
    obtain ⟨names, heq, -, -, hdistinct⟩ := hstages _ hv
    rw [texts_inj heq] at hrepeated
    exact hrepeated hdistinct

/-- A value is refused for one reason only. -/
theorem RefusedFor.ofValue_eq (hwhy : RefusedFor data why) : ofValue data = .error why.fault := by
  cases hwhy with
  | rootNotMapping hdata => simp [ofValue, hdata]
  | unknownKey hes hbefore hkey =>
    rw [ofValue_of_entries hes, ofEntries_of_fault hbefore (fault?_unknown hkey)]
    rfl
  | wrongType hes hbefore htype =>
    rw [ofValue_of_entries hes, ofEntries_of_fault hbefore (fault?_wrong htype)]
    rfl
  | noStages hes hfits hv hnames =>
    rw [ofValue_of_entries hes, ofEntries_of_fits hfits]
    rcases stagesIn_cases hfits with ⟨-, -, -, hvalid⟩ | ⟨hnone, -⟩ |
      ⟨-, names, hv', hsome, hnamed, -⟩
    · obtain ⟨names, rfl, hsome, hnamed, -⟩ := hvalid _ hv
      exact absurd (hnames names rfl) (not_or.mpr ⟨hsome, hnamed⟩)
    · rw [hnone]
      rfl
    · cases hv.symm.trans hv'
      exact absurd (hnames names rfl) (not_or.mpr ⟨hsome, hnamed⟩)
  | repeatedStage hes hfits hv hsome hnamed htwice =>
    rw [ofValue_of_entries hes, ofEntries_of_fits hfits]
    rcases stagesIn_cases hfits with ⟨-, -, -, hvalid⟩ | ⟨-, v, hv', hnames⟩ | ⟨hrepeated, -⟩
    · obtain ⟨names, heq, -, -, hdistinct⟩ := hvalid _ hv
      rw [texts_inj heq] at htwice
      exact absurd hdistinct htwice
    · cases hv.symm.trans hv'
      exact absurd (hnames _ rfl) (not_or.mpr ⟨hsome, hnamed⟩)
    · rw [hrepeated]
      rfl

theorem fault_eq_iff {f : Fault} : why.fault = f ↔
    (f = .config why ∧ ∀ key, why = .unknownKey key → key.isWritable = true) ∨
      f = .mismatch .badValue ∧ ∃ key, why = .unknownKey key ∧ key.isWritable = false := by
  cases why with
  | unknownKey key => cases hkey : key.isWritable <;> simp [ConfigCause.fault, hkey, @eq_comm _ f]
  | _ => simp [ConfigCause.fault, @eq_comm _ f]

theorem ofValue_eq_error {f : Fault} :
    ofValue data = .error f ↔ ∃ why, RefusedFor data why ∧ why.fault = f := by
  constructor
  · intro hf
    rcases ofValue_cases data with ⟨-, c, hc, -⟩ | ⟨why, hwhy, hrefused⟩
    · cases hc.symm.trans hf
    · exact ⟨why, hrefused, Except.error.inj (hwhy.symm.trans hf)⟩
  · rintro ⟨why, hrefused, rfl⟩
    exact hrefused.ofValue_eq

/-- A value states a configuration just if it is a valid mapping. Each setting is then the value given for
it, or its default. Otherwise the value is refused, for the first entry that has an unknown key or a value of
another type, and for its stages only where there is no such entry. The refusal names an unknown key: where
the key cannot be written, it ends in a bad value instead. -/
theorem ofValue_exact (data : Value) :
    ((∃ c, ofValue data = .ok c) ↔ ∃ es, data.entries? = some es ∧ Valid es) ∧
      (∀ c, ofValue data = .ok c → ∃ es, data.entries? = some es ∧ States es c) ∧
      ∀ f, ofValue data = .error f ↔
        (∃ why, f = .config why ∧ RefusedFor data why ∧
          ∀ key, why = .unknownKey key → key.isWritable = true) ∨
        f = .mismatch .badValue ∧ ∃ key, RefusedFor data (.unknownKey key) ∧ key.isWritable = false := by
  refine ⟨⟨?_, ?_⟩, ?_, fun f => ?_⟩
  · rintro ⟨c, hc⟩
    obtain ⟨es, hes, hvalid, -⟩ := exists_states hc
    exact ⟨es, hes, hvalid⟩
  · rintro ⟨es, hes, hvalid⟩
    rcases ofValue_cases data with ⟨-, c, hc, -⟩ | ⟨why, -, hrefused⟩
    · exact ⟨c, hc⟩
    · exact absurd hvalid (hrefused.not_valid hes)
  · intro c hc
    obtain ⟨es, hes, -, hstates⟩ := exists_states hc
    exact ⟨es, hes, hstates⟩
  · simp only [ofValue_eq_error, fault_eq_iff]
    constructor
    · rintro ⟨why, hrefused, ⟨rfl, hkey⟩ | ⟨rfl, key, rfl, hkey⟩⟩
      · exact .inl ⟨why, rfl, hrefused, hkey⟩
      · exact .inr ⟨rfl, key, hrefused, hkey⟩
    · rintro (⟨why, rfl, hrefused, hkey⟩ | ⟨rfl, key, hrefused, hkey⟩)
      · exact ⟨why, hrefused, .inl ⟨rfl, hkey⟩⟩
      · exact ⟨.unknownKey key, hrefused, .inr ⟨rfl, key, rfl, hkey⟩⟩

/-- Not every value that is refused is told why: an unknown key of 4301 digits cannot be written. -/
theorem endlessKey_not_reported : ¬ ∀ data : Value, (∃ c, ofValue data = .ok c) ∨
    ∃ why, ofValue data = .error (.config why) := by
  intro htold
  have hwritable : (Value.int (10 ^ 4300)).isWritable = false := by decide +kernel
  have hrefused (n : Int) : RefusedFor (.map false [(.int n, .null)]) (.unknownKey (.int n)) :=
    @RefusedFor.unknownKey _ [] _ .null [] rfl (by simp) (by simp)
  have hraised := ofValue_eq_error.mpr ⟨_, hrefused _, fault_eq_iff.mpr (.inr ⟨rfl, _, rfl, hwritable⟩)⟩
  rcases htold (.map false [(.int (10 ^ 4300), .null)]) with ⟨c, hc⟩ | ⟨why, hwhy⟩
  · cases hraised.symm.trans hc
  · cases hraised.symm.trans hwhy

end Config
end StageGate
