import StageGate.Proofs.DecodedResources
import StageGate.Proofs.MappingLookups

/-!
Manifests that decode to the same. Decoding asks a document for its kind, whether it is valid, and for the
fields that the resource of its kind is made of; two documents that agree in these have the same outcome.
-/

namespace StageGate

/-- The keys at the root under which the content of the kind stands. -/
def Kind.contentKeys : Kind → List String
  | .nameSpace | .serviceAccount => []
  | .role | .clusterRole => ["rules"]
  | .roleBinding | .clusterRoleBinding => ["roleRef", "subjects"]
  | .configMap => ["data"]
  | .daemonSet | .pod | .service => ["spec"]
  | .securityConstraints => ["users", "allowPrivilegedContainer"]

/-- The fields of metadata that a resource keeps. -/
def Metadata.keys : List String := ["name", "namespace", "labels", "annotations"]

/-! Checks and verdicts that come out the same. -/

theorem Mapping.find?_missing_congr {es fs : Mapping} {keys : List String}
    (h : ∀ key ∈ keys, fs.has key = es.has key) :
    (keys.find? fun key => !fs.has key) = keys.find? fun key => !es.has key := by
  induction keys with
  | nil => rfl
  | cons key keys ih =>
    rw [List.find?_cons, List.find?_cons, h key List.mem_cons_self,
      ih fun other hother => h other (List.mem_cons_of_mem _ hother)]

namespace Schema
variable {required : List String} {fields : List (Value × Schema)} {place : Location}
  {v v' : Value} {es before after : Mapping} {key : String}

/-- An object with another value under a key has the same fault if that value has. -/
theorem check_insert {u w : Value} (hes : v.entries? = some es)
    (hes' : v'.entries? = some (es.insert (.str key) w)) (hu : es.get? key = some u)
    (hfield : checkField fields (place ++ [.key (.str key)]) (.str key) w =
      checkField fields (place ++ [.key (.str key)]) (.str key) u) :
    check (.object required fields) place v' = check (.object required fields) place v := by
  obtain ⟨before, after, hsplit, hinsert⟩ := Mapping.exists_insert_eq hu w
  have hmissing := Mapping.find?_missing_congr fun r (_ : r ∈ required) => Mapping.has_insert hu w r
  simp only [check, firstMissing, hes, hes', hmissing]
  rw [hinsert, hsplit]
  simp only [List.findSome?_append, List.findSome?_cons, hfield]

/-- An object with one more entry has the same fault if the key is not mentioned. -/
theorem check_middle {u : Value} (hes : v.entries? = some (before ++ after))
    (hes' : v'.entries? = some (before ++ (.str key, u) :: after)) (hrequired : key ∉ required)
    (hfield : find? fields key = none) :
    check (.object required fields) place v' = check (.object required fields) place v := by
  have hagree := Mapping.agreeOn_middle hrequired before after u
  have hmissing := Mapping.find?_missing_congr fun r hr => hagree.has_eq hr
  have hmiddle := checkField_of_find?_none hfield (place ++ [.key (.str key)]) u
  simp only [check, firstMissing, hes, hes', hmissing, List.findSome?_append, List.findSome?_cons, hmiddle]

end Schema

/-- Verdicts that come out the same, but for the kind that a refusal names. -/
theorem SchemaCatalog.validate_congr {c c' : SchemaCatalog} {doc doc' : Value} {es fs : Mapping}
    (hes : doc.entries? = some es) (hfs : doc'.entries? = some fs)
    (hcore : ∀ field ∈ coreFields, fs.has field = es.has field)
    (hversion : fs.get "apiVersion" = es.get "apiVersion")
    (hkey : (fs.get "kind").key?.isNone = (es.get "kind").key?.isNone)
    (hwritable : (fs.get "kind").isWritable = (es.get "kind").isWritable)
    (hfind : c'.find? (fs.get "kind") = c.find? (es.get "kind"))
    (hcheck : ∀ schema, c.find? (es.get "kind") = some schema → schema.check doc' = schema.check doc) :
    (c'.validate doc').map (Option.map Rejection.isWritable) =
      (c.validate doc).map (Option.map Rejection.isWritable) := by
  simp only [validate, hes, hfs, Mapping.find?_missing_congr hcore, hversion, hkey, hfind]
  split
  · rfl
  · split
    · rfl
    · split
      · rfl
      · cases hschema : c.find? (es.get "kind") with
        | none => simp [Except.map, Rejection.isWritable, hwritable]
        | some schema => simp only [hcheck schema hschema]

namespace Manifest

/-! What the parts of a resource are read from. -/

section
variable {kind : Kind} {es fs fields fields' : Mapping}

theorem contentOf_congr (h : Mapping.AgreeOn kind.contentKeys es fs) :
    contentOf kind fs = contentOf kind es := by
  have hget (key : String) (hkey : key ∈ kind.contentKeys) : fs.get key = es.get key := h.get_eq hkey
  unfold contentOf
  cases kind with
  | nameSpace | serviceAccount => rfl
  | role | clusterRole => rw [hget "rules" (by decide)]
  | roleBinding | clusterRoleBinding => rw [hget "roleRef" (by decide), hget "subjects" (by decide)]
  | configMap => rw [hget "data" (by decide)]
  | daemonSet | pod | service => rw [hget "spec" (by decide)]
  | securityConstraints =>
    rw [hget "users" (by decide), hget "allowPrivilegedContainer" (by decide)]

theorem metadataOf_congr (hfields : membersOf (es.get "metadata") = .ok fields)
    (hfields' : membersOf (fs.get "metadata") = .ok fields')
    (h : Mapping.AgreeOn Metadata.keys fields fields') : metadataOf fs = metadataOf es := by
  have hget (key : String) (hkey : key ∈ Metadata.keys) : fields'.get key = fields.get key := h.get_eq hkey
  simp only [metadataOf, hfields, hfields', hget "name" (by decide), hget "namespace" (by decide),
    hget "labels" (by decide), hget "annotations" (by decide), bind, Except.bind]

/-- Resources of documents that agree in what is read differ in the document alone. -/
theorem resourceOf_congr (doc doc' : Value) (hversion : fs.get "apiVersion" = es.get "apiVersion")
    (hmetadata : metadataOf fs = metadataOf es) (hcontent : Mapping.AgreeOn kind.contentKeys es fs) :
    resourceOf kind doc' fs = (resourceOf kind doc es).map fun r => { r with document := doc' } := by
  simp only [resourceOf, hversion, hmetadata, contentOf_congr hcontent]
  cases metadataOf es with
  | error m => rfl
  | ok metadata => cases contentOf kind es <;> rfl

end

/-! Outcomes. -/

/-- Two outcomes of decoding are the same: resources that are related and go into one slot, the same kind
that is not supported, or faults that both name the source. -/
inductive SameOutcome (source : Option String) (same : Resource → Resource → Prop) :
    Except Fault Decoded → Except Fault Decoded → Prop where
  | recognized {slot r s} (hsame : same r s) :
      SameOutcome source same (.ok (.recognized slot r)) (.ok (.recognized slot s))
  | unrecognized (kind : String) :
      SameOutcome source same (.ok (.unrecognized kind)) (.ok (.unrecognized kind))
  | refused {f g} (hf : Names source f) (hg : Names source g) :
      SameOutcome source same (.error f) (.error g)

theorem SameOutcome.exists_recognized {source : Option String} {same : Resource → Resource → Prop}
    {slot : String} {r : Resource} {x : Except Fault Decoded}
    (h : SameOutcome source same (.ok (.recognized slot r)) x) :
    ∃ s, x = .ok (.recognized slot s) ∧ same r s := by
  cases h with
  | recognized hsame => exact ⟨_, rfl, hsame⟩

theorem SameOutcome.not_mismatch {source : Option String} {same : Resource → Resource → Prop}
    {m : Mismatch} {x : Except Fault Decoded} :
    ¬ SameOutcome source same (.error (.mismatch m)) x := by
  intro h
  cases h with
  | refused hf => exact not_names_mismatch source hf

section
variable {catalog catalog' : SchemaCatalog} {source : Option String} {doc doc' : Value} {slot : String}
  {r : Resource} {same : Resource → Resource → Prop} {m : Mismatch}

theorem decodeDocument_kindless (catalog : SchemaCatalog) (source : Option String) {why : DecodeCause}
    (hname : kindOf doc = .error why) :
    decodeDocument catalog source doc = .error (.decode why source) := by
  simp [decodeDocument, hname, bind, Except.bind]

/-- A document of a supported kind that is valid comes to what the making of its resource comes to. -/
theorem decodeDocument_valid {kind : Kind} {es : Mapping} (source : Option String)
    (hname : kindOf doc = .ok kind.name) (hes : doc.entries? = some es)
    (hvalid : catalog.validate doc = .ok none) :
    decodeDocument catalog source doc = ((resourceOf kind doc es).mapError (unfit source kind)).bind fun r =>
      if r.name.isWritable then .ok (.recognized kind.slotName r) else .error (.mismatch .badValue) := by
  simp [decodeDocument, hname, Kind.ofName?_name, SchemaCatalog.verdict_eq_none.mpr hvalid, hes, bind,
    Except.bind, pure, Except.pure]

/-- A document of a supported kind is recognized, or it is refused. -/
theorem exists_recognized_or_error (catalog : SchemaCatalog) (source : Option String) {kind : Kind}
    (hname : kindOf doc = .ok kind.name) :
    (∃ r, decodeDocument catalog source doc = .ok (.recognized kind.slotName r)) ∨
      ∃ f, decodeDocument catalog source doc = .error f := by
  cases hdecoded : decodeDocument catalog source doc with
  | error f => exact .inr ⟨f, rfl⟩
  | ok decoded =>
    obtain ⟨es, hnames⟩ := kindOf_eq_ok_iff.mp hname
    have hvalid := valid_of_decodeDocument hnames hdecoded
    rw [decodeDocument_valid source hname hnames.entries hvalid] at hdecoded
    obtain ⟨r, -, hr⟩ := bind_eq_ok.mp hdecoded
    split at hr
    · cases hr
      exact .inl ⟨r, rfl⟩
    · cases hr

theorem decodeDocument_eq_mismatch :
    decodeDocument catalog source doc = .error (.mismatch m) ↔ Odd catalog doc m := by
  refine ⟨fun hm => ?_, decodeDocument_odd⟩
  by_cases hodd : ∃ m', Odd catalog doc m'
  · obtain ⟨m', hm'⟩ := hodd
    cases hm.symm.trans (decodeDocument_odd hm')
    exact hm'
  · exact absurd (decodeDocument_failsOnly (not_exists.mp hodd) _ hm) (not_names_mismatch source)

/-- Documents of one kind have the same outcome if each is recognized when the other is, and as related
resources, unless both are refused and one of them is odd. -/
theorem sameOutcome_of_recognizes (hkind : kindOf doc' = kindOf doc)
    (hto : ∀ slot r, Recognizes catalog doc slot r → ∃ s, Recognizes catalog' doc' slot s ∧ same r s)
    (hfrom : ∀ slot s, Recognizes catalog' doc' slot s → ∃ r, Recognizes catalog doc slot r) :
    SameOutcome source same (decodeDocument catalog source doc) (decodeDocument catalog' source doc') ∨
      (∃ f, decodeDocument catalog source doc = .error f) ∧
      (∃ g, decodeDocument catalog' source doc' = .error g) ∧
      ∃ m, Odd catalog doc m ∨ Odd catalog' doc' m := by
  cases hname : kindOf doc with
  | error why =>
    rw [decodeDocument_kindless catalog source hname,
      decodeDocument_kindless catalog' source (hkind.trans hname)]
    exact .inl (.refused (names_decode why source) (names_decode why source))
  | ok name =>
    cases hsupported : Kind.ofName? name with
    | none =>
      rw [decodeDocument_unsupported catalog source hname hsupported,
        decodeDocument_unsupported catalog' source (hkind.trans hname) hsupported]
      exact .inl (.unrecognized name)
    | some kind =>
      obtain rfl := Kind.ofName?_eq_some.mp hsupported
      rcases exists_recognized_or_error catalog source hname with ⟨r, hr⟩ | ⟨f, hf⟩
      · obtain ⟨s, hs, hsame⟩ := hto _ r (decodeDocument_eq_recognized.mp hr)
        rw [hr, decodeDocument_eq_recognized.mpr hs]
        exact .inl (.recognized hsame)
      · have hrefused : ∃ g, decodeDocument catalog' source doc' = .error g := by
          refine (exists_recognized_or_error catalog' source (hkind.trans hname)).resolve_left ?_
          rintro ⟨s, hs⟩
          obtain ⟨r, hr⟩ := hfrom _ s (decodeDocument_eq_recognized.mp hs)
          cases hf.symm.trans (decodeDocument_eq_recognized.mpr hr)
        by_cases hodd : ∃ m, Odd catalog doc m ∨ Odd catalog' doc' m
        · exact .inr ⟨⟨f, hf⟩, hrefused, hodd⟩
        · obtain ⟨g, hg⟩ := hrefused
          simp only [not_exists, not_or, forall_and] at hodd
          rw [hf, hg]
          exact .inl (.refused (decodeDocument_failsOnly hodd.1 f hf) (decodeDocument_failsOnly hodd.2 g hg))

/-- The documents agree in all that decoding asks of them, the first under one catalog and the second under
another. -/
structure SameFields (catalog catalog' : SchemaCatalog) (doc doc' : Value) : Prop where
  kind : kindOf doc' = kindOf doc
  verdict : ∀ kind : Kind, kindOf doc = .ok kind.name →
    (catalog'.validate doc').map (Option.map Rejection.isWritable) =
      (catalog.validate doc).map (Option.map Rejection.isWritable)
  made : ∀ (kind : Kind) es, kindOf doc = .ok kind.name → doc.entries? = some es →
    ∃ es', doc'.entries? = some es' ∧
      resourceOf kind doc' es' = (resourceOf kind doc es).map fun r => { r with document := doc' }

theorem SameFields.refl (catalog : SchemaCatalog) (doc : Value) : SameFields catalog catalog doc doc where
  kind := rfl
  verdict _ _ := rfl
  made _ es _ hes := ⟨es, hes, resourceOf_congr doc doc rfl rfl fun _ _ => rfl⟩

theorem SameFields.trans {catalog'' : SchemaCatalog} {doc'' : Value}
    (h : SameFields catalog catalog' doc doc') (h' : SameFields catalog' catalog'' doc' doc'') :
    SameFields catalog catalog'' doc doc'' where
  kind := h'.kind.trans h.kind
  verdict kind hname := (h'.verdict kind (h.kind.trans hname)).trans (h.verdict kind hname)
  made kind es hname hes := by
    obtain ⟨es', hes', hmade⟩ := h.made kind es hname hes
    obtain ⟨es'', hes'', hmade'⟩ := h'.made kind es' (h.kind.trans hname) hes'
    refine ⟨es'', hes'', ?_⟩
    rw [hmade', hmade]
    cases resourceOf kind doc es <;> rfl

/-- A kind does not fit its document, as the source is told, or the mismatch is left as it is. -/
theorem unfit_cases (source : Option String) (kind : Kind) (m : Mismatch) :
    Names source (unfit source kind m) ∨ unfit source kind m = .mismatch m := by
  by_cases hm : Reported m
  · exact .inl (unfit_names source kind hm)
  · refine .inr ?_
    unfold Reported at hm
    unfold unfit
    split <;> simp_all

/-- Outcomes that differ in the document alone, or that are one mismatch. -/
def SameEnd (source : Option String) (doc' : Value) (x y : Except Fault Decoded) : Prop :=
  SameOutcome source (fun r s => s = { r with document := doc' }) x y ∨
    ∃ m, x = .error (.mismatch m) ∧ y = .error (.mismatch m)

theorem SameFields.sameEnd_of_valid (h : SameFields catalog catalog' doc doc') (source : Option String)
    {kind : Kind} (hname : kindOf doc = .ok kind.name) (hvalid : catalog.validate doc = .ok none)
    (hvalid' : catalog'.validate doc' = .ok none) :
    SameEnd source doc' (decodeDocument catalog source doc) (decodeDocument catalog' source doc') := by
  obtain ⟨es, hes⟩ := kindOf_eq_ok_iff.mp hname
  obtain ⟨es', hes', hmade⟩ := h.made kind es hname hes.entries
  rw [decodeDocument_valid source hname hes.entries hvalid,
    decodeDocument_valid source (h.kind.trans hname) hes' hvalid', hmade]
  cases hr : resourceOf kind doc es with
  | error m =>
    rcases unfit_cases source kind m with hnames | hleft
    · exact .inl (.refused hnames hnames)
    · exact .inr ⟨m, congrArg Except.error hleft, congrArg Except.error hleft⟩
  | ok r =>
    have hsame : ({ r with document := doc' } : Resource).name = r.name := rfl
    simp only [mapError_ok, Except.map, Except.bind, hsame]
    cases r.name.isWritable with
    | true => exact .inl (.recognized rfl)
    | false => exact .inr ⟨.badValue, rfl, rfl⟩

theorem SameFields.sameEnd_of_invalid (h : SameFields catalog catalog' doc doc') (source : Option String)
    {kind : Kind} (hname : kindOf doc = .ok kind.name) {why why' : Rejection}
    (hvalid : catalog.validate doc = .ok (some why)) (hvalid' : catalog'.validate doc' = .ok (some why'))
    (hwritable : why'.isWritable = why.isWritable) :
    SameEnd source doc' (decodeDocument catalog source doc) (decodeDocument catalog' source doc') := by
  rw [decodeDocument_invalid source hname hvalid,
    decodeDocument_invalid source (h.kind.trans hname) hvalid', hwritable]
  cases why.isWritable with
  | true => exact .inl (.refused (names_decode _ source) (names_decode _ source))
  | false => exact .inr ⟨.badValue, rfl, rfl⟩

/-- Documents that agree end alike. -/
theorem SameFields.sameEnd (h : SameFields catalog catalog' doc doc') (source : Option String) :
    SameEnd source doc' (decodeDocument catalog source doc) (decodeDocument catalog' source doc') := by
  cases hname : kindOf doc with
  | error why =>
    rw [decodeDocument_kindless catalog source hname,
      decodeDocument_kindless catalog' source (h.kind.trans hname)]
    exact .inl (.refused (names_decode why source) (names_decode why source))
  | ok name =>
    cases hsupported : Kind.ofName? name with
    | none =>
      rw [decodeDocument_unsupported catalog source hname hsupported,
        decodeDocument_unsupported catalog' source (h.kind.trans hname) hsupported]
      exact .inl (.unrecognized name)
    | some kind =>
      obtain rfl := Kind.ofName?_eq_some.mp hsupported
      have hverdict := h.verdict kind hname
      obtain ⟨verdict, hvalid⟩ := exists_verdict catalog hname
      obtain ⟨verdict', hvalid'⟩ := exists_verdict catalog' (h.kind.trans hname)
      rw [hvalid, hvalid'] at hverdict
      cases verdict with
      | none =>
        obtain rfl : verdict' = none := by simpa [Except.map] using hverdict
        exact h.sameEnd_of_valid source hname hvalid hvalid'
      | some why =>
        obtain ⟨why', rfl, hwritable⟩ :
            ∃ why', verdict' = some why' ∧ why'.isWritable = why.isWritable := by
          simpa [Except.map] using hverdict
        exact h.sameEnd_of_invalid source hname hvalid hvalid' hwritable

/-- What is odd in one of such documents is odd in both. -/
theorem SameFields.decode_odd (h : SameFields catalog catalog' doc doc') (source : Option String)
    (hodd : Odd catalog doc m) : decodeDocument catalog' source doc' = .error (.mismatch m) := by
  have hm := (decodeDocument_odd hodd : decodeDocument catalog source doc = _)
  rcases h.sameEnd source with hsame | ⟨m', hm', hother⟩
  · rw [hm] at hsame
    exact absurd hsame SameOutcome.not_mismatch
  · cases hm.symm.trans hm'
    exact hother

theorem SameFields.sameOutcome_of_not_odd (h : SameFields catalog catalog' doc doc') (source : Option String)
    (hodd : ∀ m, ¬ Odd catalog doc m) : SameOutcome source (fun r s => s = { r with document := doc' })
      (decodeDocument catalog source doc) (decodeDocument catalog' source doc') := by
  refine (h.sameEnd source).resolve_right ?_
  rintro ⟨m, hm, -⟩
  exact hodd m (decodeDocument_eq_mismatch.mp hm)

/-! Bytes. -/

variable [Yaml.Reader]

/-- The bytes read as documents of which this one alone is not null. -/
def States (bytes : List UInt8) (doc : Value) : Prop :=
  ∃ text docs, unmarkedTextOf? bytes = some text ∧ Yaml.Reader.documents text = .ok docs ∧ IsOnly docs doc

theorem states_of_document (text : String) {bytes : List UInt8}
    (htext : unmarkedTextOf? bytes = some text) (hread : Yaml.Reader.documents text = .ok [doc])
    (hdoc : doc ≠ .null) : States bytes doc :=
  ⟨text, [doc], htext, hread, hdoc, [], [], rfl, by simp⟩

theorem States.decode_eq {bytes : List UInt8} (hb : States bytes doc) (catalog : SchemaCatalog)
    (source : Option String) : decode catalog source bytes = decodeDocument catalog source doc := by
  obtain ⟨text, docs, htext, hread, honly⟩ := hb
  exact decode_of_only catalog source htext hread honly

end

end Manifest
end StageGate
