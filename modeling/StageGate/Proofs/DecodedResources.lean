import Mathlib.Data.List.TakeWhile
import StageGate.Proofs.DecodeFaults
import StageGate.Proofs.ReadFields

/-!
What decoding makes of a manifest that can be read. Whether it is refused depends on its documents, on the
kind that the only one of them names, and on the schema of that kind. The schema asks for just what the
resource is made of, so a document that passes it is taken over field by field.
-/

namespace StageGate

namespace Text

theorem trim_eq_nil_iff {cs : List Char} : trim cs = [] ↔ ∀ c ∈ cs, isBlank c = true := by
  unfold trim trimOf
  rw [List.reverse_eq_nil_iff, List.dropWhile_eq_nil_iff]
  simp only [List.mem_reverse]
  constructor
  · intro hrest c hc
    rw [← List.takeWhile_append_dropWhile (p := isBlank) (l := cs), List.mem_append] at hc
    rcases hc with hfront | hrear
    · exact List.mem_takeWhile_imp hfront
    · exact hrest c hrear
  · intro hall c hc
    exact hall c ((List.dropWhile_sublist isBlank).mem hc)

theorem strip_eq_empty_iff {s : String} : strip s = "" ↔ ∀ c ∈ s.toList, isBlank c = true := by
  rw [strip, String.ofList_eq_empty_iff, trim_eq_nil_iff]

end Text

namespace Kind

theorem ofName?_name (kind : Kind) : ofName? kind.name = some kind := by
  cases kind <;> rfl

theorem ofName?_eq_some {name : String} {kind : Kind} : ofName? name = some kind ↔ kind.name = name := by
  constructor
  · intro hname
    simpa using List.find?_some hname
  · rintro rfl
    exact ofName?_name kind

theorem ofName?_eq_none {name : String} : ofName? name = none ↔ ∀ kind : Kind, kind.name ≠ name := by
  rw [Option.eq_none_iff_forall_ne_some]
  exact forall_congr' fun kind => not_congr ofName?_eq_some

theorem strip_name (kind : Kind) : Text.strip kind.name = kind.name := by
  cases kind <;> decide

end Kind

/-! The schemas of the kinds. -/

/-- The schema that the standard catalog has for documents of the kind. -/
def Schema.ofKind : Kind → DocumentSchema
  | .nameSpace | .serviceAccount => free
  | .role | .clusterRole => role
  | .roleBinding | .clusterRoleBinding => binding
  | .configMap => configMap
  | .daemonSet => daemonSet
  | .pod => pod
  | .service => service
  | .securityConstraints => constraints

theorem Schema.mem_standard {e : Value × DocumentSchema} (he : e ∈ SchemaCatalog.standard) :
    ∃ kind : Kind, e = (.str kind.name, ofKind kind) := by
  simp only [SchemaCatalog.standard, List.mem_cons, List.not_mem_nil, or_false] at he
  rcases he with rfl | rfl | rfl | rfl | rfl | rfl | rfl | rfl | rfl | rfl | rfl
  · exact ⟨.nameSpace, rfl⟩
  · exact ⟨.serviceAccount, rfl⟩
  · exact ⟨.role, rfl⟩
  · exact ⟨.clusterRole, rfl⟩
  · exact ⟨.roleBinding, rfl⟩
  · exact ⟨.clusterRoleBinding, rfl⟩
  · exact ⟨.configMap, rfl⟩
  · exact ⟨.daemonSet, rfl⟩
  · exact ⟨.pod, rfl⟩
  · exact ⟨.service, rfl⟩
  · exact ⟨.securityConstraints, rfl⟩

/-- A text that has a schema is the name of a kind. -/
theorem SchemaCatalog.find?_standard {s : String} {schema : DocumentSchema}
    (hfind : standard.find? (.str s) = some schema) :
    ∃ kind : Kind, s = kind.name ∧ schema = Schema.ofKind kind := by
  obtain ⟨e, he, rfl⟩ := Option.map_eq_some_iff.mp hfind
  obtain ⟨kind, rfl⟩ := Schema.mem_standard (List.mem_of_find?_eq_some he)
  have hsame := List.find?_some he
  simp only [Value.sameKey, Value.key?, beq_iff_eq, List.cons.injEq, KeyAtom.str.injEq,
    and_true] at hsame
  exact ⟨kind, hsame.symm, rfl⟩

namespace Manifest
variable {es : Mapping}

/-! Resources as they are read. -/

structure ReadsMetadata (fields : Mapping) (m : Metadata) : Prop where
  name : Holds some .null .never fields "name" m.name
  namespaceName : Holds some .null .absent fields "namespace" m.namespaceName
  labels : Holds Value.entries? [] .absentOrNull fields "labels" m.labels
  annotations : Holds Value.entries? [] .absentOrNull fields "annotations" m.annotations

inductive ReadsContent (es : Mapping) : Kind → Content → Prop where
  | bare {kind} (hkind : kind = .nameSpace ∨ kind = .serviceAccount) : ReadsContent es kind .bare
  | rules {kind rules} (hkind : kind = .role ∨ kind = .clusterRole)
      (hrules : Holds Value.items? [] .absent es "rules" rules) : ReadsContent es kind (.rules rules)
  | binding {kind roleRef subjects} (hkind : kind = .roleBinding ∨ kind = .clusterRoleBinding)
      (hrole : Holds Value.entries? [] .never es "roleRef" roleRef)
      (hsubjects : Holds Value.items? [] .absent es "subjects" subjects) :
      ReadsContent es kind (.binding roleRef subjects)
  | data {data} (hdata : Holds Value.entries? [] .absentOrNull es "data" data) :
      ReadsContent es .configMap (.data data)
  | workload {kind spec} (hkind : kind = .daemonSet ∨ kind = .pod)
      (hspec : Holds Value.entries? [] .never es "spec" spec) : ReadsContent es kind (.spec spec)
  | service {spec} (hspec : Holds Value.entries? [] .absent es "spec" spec) :
      ReadsContent es .service (.spec spec)
  | constraints {users privileged} (husers : Holds Value.items? [] .absent es "users" users)
      (hprivileged : Holds truth? false .absent es "allowPrivilegedContainer" privileged) :
      ReadsContent es .securityConstraints (.constraints users privileged)

/-- The resource of the kind is made of the document, field by field. -/
structure MadeFrom (kind : Kind) (doc : Value) (es : Mapping) (r : Resource) : Prop where
  sameKind : r.kind = kind
  sameClass : r.className = kind.className
  apiVersion : es.get? "apiVersion" = some r.apiVersion
  metadata : ∃ fields, (es.get "metadata").entries? = some fields ∧ ReadsMetadata fields r.metadata
  content : ReadsContent es kind r.content
  document : r.document = doc

theorem ReadsMetadata.metadataOf_eq {fields : Mapping} {m : Metadata} (hm : ReadsMetadata fields m)
    (hfields : (es.get "metadata").entries? = some fields) : metadataOf es = .ok m := by
  simp [metadataOf, membersOf_of_entries hfields, hm.labels.mapping, hm.annotations.mapping, hm.name.value,
    hm.namespaceName.value, bind, Except.bind, pure, Except.pure]

theorem ReadsContent.contentOf_eq {kind : Kind} {c : Content} (hc : ReadsContent es kind c) :
    contentOf kind es = .ok c := by
  cases hc with
  | bare hkind => rcases hkind with rfl | rfl <;> rfl
  | rules hkind hrules =>
    rcases hkind with rfl | rfl <;> simp [contentOf, hrules.list, Except.map]
  | binding hkind hrole hsubjects =>
    rcases hkind with rfl | rfl <;>
      simp [contentOf, hrole.mapping, hsubjects.list, bind, Except.bind, pure, Except.pure]
  | data hdata => simp [contentOf, hdata.mapping, Except.map]
  | workload hkind hspec =>
    rcases hkind with rfl | rfl <;> simp [contentOf, hspec.mapping, Except.map]
  | service hspec => simp [contentOf, hspec.mapping, Except.map]
  | constraints husers hprivileged =>
    simp [contentOf, husers.list, hprivileged.flag, bind, Except.bind, pure, Except.pure]

/-- Nothing can go wrong in making a resource of the fields. -/
theorem MadeFrom.resourceOf_eq {kind : Kind} {doc : Value} {r : Resource} (hr : MadeFrom kind doc es r) :
    resourceOf kind doc es = .ok r := by
  obtain ⟨rfl, hclass, hversion, ⟨fields, hfields, hmetadata⟩, hcontent, rfl⟩ := hr
  simp [resourceOf, hmetadata.metadataOf_eq hfields, hcontent.contentOf_eq, Mapping.get_of_get? hversion,
    ← hclass, bind, Except.bind, pure, Except.pure]

section
variable {doc : Value} {place : Schema.Location}

theorem exists_metadata {v : Value} {fields : Mapping} (hcheck : Schema.metadata.check place v = none)
    (hfields : v.entries? = some fields) : ∃ m, ReadsMetadata fields m := by
  obtain ⟨name, hname⟩ := exists_holds Value.null "name" hcheck hfields rfl
    (sees_any .never _) (.inl (by simp))
  obtain ⟨home, hhome⟩ := exists_holds Value.null "namespace" hcheck hfields rfl
    (sees_any .absent _) (.inr rfl)
  obtain ⟨labels, hlabels⟩ := exists_holds [] "labels" hcheck hfields rfl sees_map
    (.inr (.inl rfl))
  obtain ⟨annotations, hannotations⟩ := exists_holds [] "annotations" hcheck hfields rfl sees_map
    (.inr (.inl rfl))
  exact ⟨⟨name, home, labels, annotations⟩, hname, hhome, hlabels, hannotations⟩

/-- The schema of a kind asks for what the content of the kind is read from. -/
theorem exists_content (kind : Kind) (hcheck : (Schema.ofKind kind).check doc = none)
    (hes : doc.entries? = some es) : ∃ c, ReadsContent es kind c := by
  have hitems (key : String) (items : Schema)
      (hs : Schema.find? (Schema.ofKind kind).fields key = some (.array items)) :
      ∃ vs, Holds Value.items? [] .absent es key vs :=
    exists_holds [] key hcheck hes hs (sees_array _ _) (.inr rfl)
  have hentries (gap : Gap) (key : String) (required : List String) (fields : List (Value × Schema))
      (hs : Schema.find? (Schema.ofKind kind).fields key = some (.object required fields))
      (hgap : key ∈ (Schema.ofKind kind).required ∨ gap.Allows none) :
      ∃ m, Holds Value.entries? [] gap es key m :=
    exists_holds [] key hcheck hes hs (sees_object _ _ _) hgap
  cases kind with
  | nameSpace => exact ⟨.bare, .bare (.inl rfl)⟩
  | serviceAccount => exact ⟨.bare, .bare (.inr rfl)⟩
  | role =>
    obtain ⟨rules, hrules⟩ := hitems "rules" _ rfl
    exact ⟨.rules rules, .rules (.inl rfl) hrules⟩
  | clusterRole =>
    obtain ⟨rules, hrules⟩ := hitems "rules" _ rfl
    exact ⟨.rules rules, .rules (.inr rfl) hrules⟩
  | roleBinding =>
    obtain ⟨roleRef, hrole⟩ := hentries .never "roleRef" _ _ rfl (.inl (by decide))
    obtain ⟨subjects, hsubjects⟩ := hitems "subjects" _ rfl
    exact ⟨.binding roleRef subjects, .binding (.inl rfl) hrole hsubjects⟩
  | clusterRoleBinding =>
    obtain ⟨roleRef, hrole⟩ := hentries .never "roleRef" _ _ rfl (.inl (by decide))
    obtain ⟨subjects, hsubjects⟩ := hitems "subjects" _ rfl
    exact ⟨.binding roleRef subjects, .binding (.inr rfl) hrole hsubjects⟩
  | configMap =>
    obtain ⟨data, hdata⟩ := exists_holds [] "data" hcheck hes rfl sees_map (.inr (.inl rfl))
    exact ⟨.data data, .data hdata⟩
  | daemonSet =>
    obtain ⟨spec, hspec⟩ := hentries .never "spec" _ _ rfl (.inl (by decide))
    exact ⟨.spec spec, .workload (.inl rfl) hspec⟩
  | pod =>
    obtain ⟨spec, hspec⟩ := hentries .never "spec" _ _ rfl (.inl (by decide))
    exact ⟨.spec spec, .workload (.inr rfl) hspec⟩
  | service =>
    obtain ⟨spec, hspec⟩ := hentries .absent "spec" _ _ rfl (.inr rfl)
    exact ⟨.spec spec, .service hspec⟩
  | securityConstraints =>
    obtain ⟨users, husers⟩ := hitems "users" _ rfl
    obtain ⟨privileged, hprivileged⟩ := exists_holds false "allowPrivilegedContainer" hcheck hes
      rfl (sees_boolean .absent) (.inr rfl)
    exact ⟨.constraints users privileged, .constraints husers hprivileged⟩

end

/-! Documents. -/

/-- Of the documents, this one alone is not null. -/
def IsOnly (docs : List Value) (doc : Value) : Prop :=
  doc ≠ .null ∧ ∃ before after, docs = before ++ doc :: after ∧ ∀ d ∈ before ++ after, d = .null

/-- The mapping names a kind at its root, which is a text and not blank. -/
structure NamesKind (doc : Value) (es : Mapping) (name : String) : Prop where
  entries : doc.entries? = some es
  kind : ∃ s, es.get? "kind" = some (.str s) ∧ name = Text.strip s ∧
    ∃ c ∈ s.toList, Text.isBlank c = false

theorem isNull_iff {v : Value} : isNull v = true ↔ v = .null := by
  cases v <;> simp [isNull]

theorem filter_eq_singleton_iff {docs : List Value} {doc : Value} :
    docs.filter (!isNull ·) = [doc] ↔ IsOnly docs doc := by
  rw [List.filter_eq_cons_iff]
  constructor
  · rintro ⟨before, after, rfl, hbefore, hdoc, hafter⟩
    refine ⟨?_, before, after, rfl, ?_⟩
    · rintro rfl
      simp [isNull] at hdoc
    · rw [List.filter_eq_nil_iff] at hafter
      intro d hd
      rw [← isNull_iff]
      rcases List.mem_append.mp hd with hd | hd
      · simpa using hbefore d hd
      · simpa using hafter d hd
  · rintro ⟨hdoc, before, after, rfl, hnull⟩
    have hrest (d : Value) (hd : d ∈ before ++ after) : ¬ (!isNull d) = true := by
      simpa using isNull_iff.mpr (hnull d hd)
    refine ⟨before, after, rfl, fun d hd => hrest d (List.mem_append_left _ hd), ?_, ?_⟩
    · simpa using mt isNull_iff.mp hdoc
    · rw [List.filter_eq_nil_iff]
      exact fun d hd => hrest d (List.mem_append_right _ hd)

theorem kindOf_eq_ok_iff {doc : Value} {name : String} :
    kindOf doc = .ok name ↔ ∃ es, NamesKind doc es name := by
  constructor
  · intro hname
    obtain ⟨es, s, hes, hkind⟩ := kindOf_eq_ok hname
    have hstated : es.get? "kind" = some (.str s) := by
      cases hv : es.get? "kind" with
      | none => simp [Mapping.get, hv] at hkind
      | some v => rw [← hkind, Mapping.get_of_get? hv]
    have hblank : Text.strip s ≠ "" := by
      intro hempty
      simp [kindOf, hes, hkind, hempty] at hname
    have hstrip : Text.strip s = name := by
      simpa [kindOf, hes, hkind, hblank] using hname
    have hletter : ∃ c ∈ s.toList, Text.isBlank c = false := by
      simpa [Text.strip_eq_empty_iff] using hblank
    exact ⟨es, hes, s, hstated, hstrip.symm, hletter⟩
  · rintro ⟨es, hes, s, hstated, rfl, hletter⟩
    have hblank : Text.strip s ≠ "" := by
      simpa [Text.strip_eq_empty_iff] using hletter
    simp [kindOf, hes, Mapping.get_of_get? hstated, hblank]

/-- The schema that the standard catalog has for a document is that of the kind which it names. -/
theorem schema_of_names {doc : Value} {es : Mapping} {kind : Kind} {schema : DocumentSchema}
    (hkind : NamesKind doc es kind.name)
    (hfind : SchemaCatalog.standard.find? (es.get "kind") = some schema) :
    schema = Schema.ofKind kind := by
  obtain ⟨-, s, hstated, hname, -⟩ := hkind
  rw [Mapping.get_of_get? hstated] at hfind
  obtain ⟨kind', rfl, rfl⟩ := SchemaCatalog.find?_standard hfind
  rw [Kind.strip_name] at hname
  have hsame : kind = kind' := by
    rw [← Option.some.injEq, ← Kind.ofName?_name, hname, Kind.ofName?_name]
  rw [hsame]

/-- What is valid and names a kind of the catalog passes the schema of that kind. -/
theorem checked_of_valid {doc : Value} {es : Mapping} {kind : Kind} (hkind : NamesKind doc es kind.name)
    (hvalid : SchemaCatalog.standard.validate doc = .ok none) :
    (∃ version, es.get? "apiVersion" = some version) ∧ (Schema.ofKind kind).check doc = none := by
  obtain ⟨es', schema, hes', hcore, -, -, hfind, hcheck⟩ := SchemaCatalog.validate_eq_none_iff.mp hvalid
  cases hkind.entries.symm.trans hes'
  obtain rfl := schema_of_names hkind hfind
  exact ⟨Option.isSome_iff_exists.mp (hcore "apiVersion" (by simp)), hcheck⟩

/-- What is valid makes a resource of its kind. -/
theorem exists_madeFrom {doc : Value} {es : Mapping} {kind : Kind} (hkind : NamesKind doc es kind.name)
    (hvalid : SchemaCatalog.standard.validate doc = .ok none) : ∃ r, MadeFrom kind doc es r := by
  obtain ⟨⟨version, hversion⟩, hcheck⟩ := checked_of_valid hkind hvalid
  obtain ⟨es', hes, hmetadata⟩ := metadata_checked hvalid
  cases hkind.entries.symm.trans hes
  obtain ⟨fields, hfields, -⟩ := Schema.check_object_eq_none_iff.mp hmetadata
  obtain ⟨m, hm⟩ := exists_metadata hmetadata hfields
  obtain ⟨c, hc⟩ := exists_content kind hcheck hes
  exact ⟨⟨kind, kind.className, version, m, c, doc⟩, rfl, rfl, hversion, ⟨fields, hfields, hm⟩, hc, rfl⟩

/-! Decoding. -/

/-- The document is valid, and the resource of its kind is made of it, with a name that can be written. -/
structure Recognizes (catalog : SchemaCatalog) (doc : Value) (slot : String) (r : Resource) : Prop where
  valid : catalog.validate doc = .ok none
  made : ∃ kind es, kindOf doc = .ok kind.name ∧ doc.entries? = some es ∧
    resourceOf kind doc es = .ok r ∧ slot = kind.slotName
  named : r.name.isWritable = true

section
variable {catalog : SchemaCatalog} {source : Option String} {bytes : List UInt8} {text : String}
  {docs : List Value} {doc : Value} {es : Mapping} {name : String}

theorem decodeDocument_eq_recognized {slot : String} {r : Resource} :
    decodeDocument catalog source doc = .ok (.recognized slot r) ↔ Recognizes catalog doc slot r := by
  constructor
  · intro hr
    obtain ⟨hvalid, name, kind, es, hname, hkind, hes, hmade, hslot, hnamed⟩ := decodeDocument_recognized hr
    obtain rfl := Kind.ofName?_eq_some.mp hkind
    exact ⟨hvalid, ⟨kind, es, hname, hes, hmade, hslot⟩, hnamed⟩
  · rintro ⟨hvalid, ⟨kind, es, hname, hes, hr, rfl⟩, hnamed⟩
    simp [decodeDocument, hname, Kind.ofName?_name, SchemaCatalog.verdict_eq_none.mpr hvalid, hes, hr, hnamed,
      bind, Except.bind, pure, Except.pure]

theorem decodeDocument_unsupported (catalog : SchemaCatalog) (source : Option String)
    (hname : kindOf doc = .ok name) (hkind : Kind.ofName? name = none) :
    decodeDocument catalog source doc = .ok (.unrecognized name) := by
  simp [decodeDocument, hname, hkind, bind, Except.bind, pure, Except.pure]

section
variable [Yaml.Reader]

theorem decode_of_only (catalog : SchemaCatalog) (source : Option String)
    (htext : unmarkedTextOf? bytes = some text) (hread : Yaml.Reader.documents text = .ok docs)
    (hdoc : IsOnly docs doc) : decode catalog source bytes = decodeDocument catalog source doc := by
  have hone : docs.filter (!isNull ·) = [doc] := filter_eq_singleton_iff.mpr hdoc
  simp [decode, documentsOf, htext, hread, decodeDocuments, hone, bind, Except.bind]

/-- A result needs a single document that names its kind. -/
theorem exists_named (htext : unmarkedTextOf? bytes = some text)
    (hread : Yaml.Reader.documents text = .ok docs)
    {decoded : Decoded} (hdecoded : decode catalog source bytes = .ok decoded) :
    ∃ doc es name, IsOnly docs doc ∧ NamesKind doc es name := by
  obtain ⟨docs', hdocs, hdecoded⟩ := bind_eq_ok.mp hdecoded
  have hsame : docs = docs' := by simpa [documentsOf, htext, hread] using hdocs
  subst hsame
  unfold decodeDocuments at hdecoded
  split at hdecoded
  · cases hdecoded
  · rename_i doc hone
    obtain ⟨name, hname, -⟩ := bind_eq_ok.mp hdecoded
    obtain ⟨es, hes⟩ := kindOf_eq_ok_iff.mp (mapError_eq_ok.mp hname)
    exact ⟨doc, es, name, filter_eq_singleton_iff.mp hone, hes⟩
  · cases hdecoded

end

/-- A document of a supported kind that is not valid is refused, for a reason that has to be written. -/
theorem decodeDocument_invalid {kind : Kind} {why : Rejection} (source : Option String)
    (hname : kindOf doc = .ok kind.name) (hwhy : catalog.validate doc = .ok (some why)) :
    decodeDocument catalog source doc = .error
      (if why.isWritable then .decode (.rejected kind why) source else .mismatch .badValue) := by
  cases hwritable : why.isWritable with
  | true =>
    have hverdict := SchemaCatalog.verdict_eq_some.mpr ⟨hwhy, hwritable⟩
    simp [decodeDocument, hname, Kind.ofName?_name, hverdict, bind, Except.bind]
  | false => exact decodeDocument_odd (.refusal ⟨_, kind, hname, Kind.ofName?_name kind⟩ hwhy hwritable)

/-- A document of a supported kind gives a result only if it is valid. -/
theorem valid_of_decodeDocument {kind : Kind} {decoded : Decoded} (hname : NamesKind doc es kind.name)
    (hdecoded : decodeDocument catalog source doc = .ok decoded) : catalog.validate doc = .ok none := by
  have hnamed : kindOf doc = .ok kind.name := kindOf_eq_ok_iff.mpr ⟨es, hname⟩
  obtain ⟨verdict, hverdict⟩ := exists_verdict catalog hnamed
  cases verdict with
  | none => exact hverdict
  | some why =>
    rw [decodeDocument_invalid source hnamed hverdict] at hdecoded
    cases hdecoded

variable [Yaml.Reader]

theorem decode_unrecognized (catalog : SchemaCatalog) (source : Option String)
    (htext : unmarkedTextOf? bytes = some text) (hread : Yaml.Reader.documents text = .ok docs)
    (hdoc : IsOnly docs doc) (hname : NamesKind doc es name) (hkind : ∀ kind : Kind, kind.name ≠ name) :
    decode catalog source bytes = .ok (.unrecognized name) := by
  have hnamed : kindOf doc = .ok name := kindOf_eq_ok_iff.mpr ⟨es, hname⟩
  rw [decode_of_only catalog source htext hread hdoc]
  exact decodeDocument_unsupported catalog source hnamed (Kind.ofName?_eq_none.mpr hkind)

/-- What is handed back as unrecognized has a kind that is not supported. -/
theorem unsupported_of_decode {kind : String}
    (hkind : decode catalog source bytes = .ok (.unrecognized kind)) :
    Kind.ofName? kind = none := by
  obtain ⟨docs, -, hdocs⟩ := bind_eq_ok.mp hkind
  unfold decodeDocuments at hdocs
  split at hdocs
  · cases hdocs
  · obtain ⟨name, -, hname⟩ := bind_eq_ok.mp hdocs
    cases hnamed : Kind.ofName? name with
    | none =>
      simp only [hnamed] at hname
      cases hname
      exact hnamed
    | some k =>
      simp only [hnamed] at hname
      obtain ⟨verdict, -, hverdict⟩ := bind_eq_ok.mp hname
      cases verdict with
      | some why => cases hverdict
      | none =>
        obtain ⟨r, -, hr⟩ := bind_eq_ok.mp hverdict
        split at hr <;> cases hr
  · cases hdocs

/-- A resource goes into the slot of its kind. -/
theorem slot_of_decode {slot : String} {r : Resource}
    (hr : decode catalog source bytes = .ok (.recognized slot r)) : slot = r.kind.slotName := by
  obtain ⟨doc, hdoc⟩ := decode_recognized hr
  obtain ⟨-, -, kind, es, -, -, -, hmade, hslot, -⟩ := decodeDocument_recognized hdoc
  rw [hslot, resourceOf_kind hmade]

theorem decode_made (source : Option String) (htext : unmarkedTextOf? bytes = some text)
    (hread : Yaml.Reader.documents text = .ok docs) (hdoc : IsOnly docs doc) {kind : Kind} {r : Resource}
    (hkind : NamesKind doc es kind.name) (hvalid : SchemaCatalog.standard.validate doc = .ok none)
    (hr : MadeFrom kind doc es r) : decode .standard source bytes = .ok (.recognized kind.slotName r) := by
  have hnamed : kindOf doc = .ok kind.name := kindOf_eq_ok_iff.mpr ⟨es, hkind⟩
  have htextual := resourceOf_textual hvalid hkind.entries hr.resourceOf_eq
  rw [decode_of_only _ source htext hread hdoc]
  exact decodeDocument_eq_recognized.mpr
    ⟨hvalid, ⟨kind, es, hnamed, hkind.entries, hr.resourceOf_eq, rfl⟩, htextual.isWritable⟩

/-- Where no document alone names a kind, the fault names the source. -/
theorem decode_unnamed (catalog : SchemaCatalog) (source : Option String)
    (htext : unmarkedTextOf? bytes = some text) (hread : Yaml.Reader.documents text = .ok docs)
    (hnamed : ∀ doc es name, ¬ (IsOnly docs doc ∧ NamesKind doc es name)) :
    ∃ f, decode catalog source bytes = .error f ∧ Names source f := by
  cases hdecoded : decode catalog source bytes with
  | ok decoded =>
    obtain ⟨doc, es, name, hdoc, hname⟩ := exists_named htext hread hdecoded
    exact absurd ⟨hdoc, hname⟩ (hnamed doc es name)
  | error f =>
    refine ⟨f, rfl, decode_failsOnly source (fun m hm => ?_) f hdecoded⟩
    cases hm with
    | unread htext' hread' =>
      cases htext.symm.trans htext'
      cases hread.symm.trans hread'
    | odd htext' hread' hone hodd =>
      cases htext.symm.trans htext'
      cases hread.symm.trans hread'
      obtain ⟨name, kind, hname, -⟩ := hodd.supported
      obtain ⟨es, hes⟩ := kindOf_eq_ok_iff.mp hname
      exact hnamed _ es name ⟨filter_eq_singleton_iff.mp hone, hes⟩

/-- A manifest whose text reads as a list of documents is refused, with a fault that names the source,
unless one document alone is not null and names a kind. A kind that is not supported is handed back
without a look at any schema. Of a document of a supported kind that is valid, a resource of the kind is made
for its slot, field by field, and nothing goes wrong in that. One that is not valid is refused with a fault of
the manifest that says why, if that can be written; if not, it ends in a bad value. -/
theorem decode_outcome (source : Option String) (htext : unmarkedTextOf? bytes = some text)
    (hread : Yaml.Reader.documents text = .ok docs) :
    ((∀ doc es name, ¬ (IsOnly docs doc ∧ NamesKind doc es name)) →
      ∃ f, decode .standard source bytes = .error f ∧ Names source f) ∧
    ∀ doc es name, IsOnly docs doc → NamesKind doc es name →
      ((∀ kind : Kind, kind.name ≠ name) →
        ∀ catalog, decode catalog source bytes = .ok (.unrecognized name)) ∧
      ∀ kind : Kind, kind.name = name →
        (SchemaCatalog.standard.validate doc = .ok none ∧
          ∃ r, resourceOf kind doc es = .ok r ∧ MadeFrom kind doc es r ∧
            decode .standard source bytes = .ok (.recognized kind.slotName r)) ∨
        ∃ why, SchemaCatalog.standard.validate doc = .ok (some why) ∧
          decode .standard source bytes = .error
            (if why.isWritable then .decode (.rejected kind why) source else .mismatch .badValue) := by
  constructor
  · exact decode_unnamed _ source htext hread
  · intro doc es name hdoc hname
    constructor
    · intro hkind catalog
      exact decode_unrecognized catalog source htext hread hdoc hname hkind
    · rintro kind rfl
      have hnamed : kindOf doc = .ok kind.name := kindOf_eq_ok_iff.mpr ⟨es, hname⟩
      obtain ⟨verdict, hverdict⟩ := exists_verdict .standard hnamed
      cases verdict with
      | none =>
        obtain ⟨r, hr⟩ := exists_madeFrom hname hverdict
        exact .inl ⟨hverdict, r, hr.resourceOf_eq, hr, decode_made source htext hread hdoc hname hverdict hr⟩
      | some why =>
        refine .inr ⟨why, hverdict, ?_⟩
        rw [decode_of_only _ source htext hread hdoc]
        exact decodeDocument_invalid source hnamed hverdict

end

/-! A manifest with a document that is null, and one that leaves out what a config map may leave out. -/

def sparseText : String :=
  "---\n---\napiVersion: v1\nkind: ConfigMap\nmetadata: {name: a, labels: null}\n"

def sparseManifest : List UInt8 :=
  byteOrderMark ++ sparseText.toUTF8.toList

def sparseEntries : Mapping := [
  (.str "apiVersion", .str "v1"), (.str "kind", .str "ConfigMap"),
  (.str "metadata", .map false [(.str "name", .str "a"), (.str "labels", .null)])]

def isSparse : List Value → Bool
  | [.null, .map false [(.str "apiVersion", .str "v1"), (.str "kind", .str "ConfigMap"),
      (.str "metadata", .map false [(.str "name", .str "a"), (.str "labels", .null)])]] => true
  | _ => false

theorem sparse_documents : Yaml.Reader.documents sparseText = .ok [.null, .map false sparseEntries] := by
  have hread : (Yaml.Reader.documents sparseText).toOption.any isSparse = true := by decide +kernel
  cases hdocs : Yaml.Reader.documents sparseText with
  | error why => simp [hdocs, Except.toOption] at hread
  | ok docs =>
    simp only [hdocs, Except.toOption, Option.any_some] at hread
    unfold isSparse at hread
    split at hread
    · rfl
    · cases hread

theorem sparse_text : unmarkedTextOf? sparseManifest = some sparseText := by
  decide +kernel

/-- The absent data and the null labels become empty mappings. -/
theorem sparse_made :
    unmarkedTextOf? sparseManifest = some sparseText ∧
      Yaml.Reader.documents sparseText = .ok [.null, .map false sparseEntries] ∧
      ∃ r, decode .standard none sparseManifest = .ok (.recognized "config_map" r) ∧
        MadeFrom .configMap (.map false sparseEntries) sparseEntries r := by
  have honly : IsOnly [.null, .map false sparseEntries] (.map false sparseEntries) := by
    refine ⟨by simp, [.null], [], rfl, ?_⟩
    simp
  have hnames : NamesKind (.map false sparseEntries) sparseEntries "ConfigMap" :=
    ⟨rfl, "ConfigMap", rfl, by decide, 'C', by decide, by decide⟩
  have hvalid : SchemaCatalog.standard.validate (.map false sparseEntries) = .ok none := rfl
  obtain ⟨-, houtcome⟩ := decode_outcome none sparse_text sparse_documents
  obtain ⟨-, hsupported⟩ := houtcome _ _ _ honly hnames
  rcases hsupported .configMap rfl with ⟨-, r, -, hr, hdecoded⟩ | ⟨why, hwhy, -⟩
  · exact ⟨sparse_text, sparse_documents, r, hdecoded, hr⟩
  · cases hvalid.symm.trans hwhy

/-- A namespace with an integer for the key of a label. -/
def labelledBy (n : Int) : Value :=
  .map false [(.str "apiVersion", .str "v1"), (.str "kind", .str "Namespace"),
    (.str "metadata", .map false [(.str "name", .str "a"), (.str "labels", .map false [(.int n, .null)])])]

theorem labelledBy_refused (n : Int) :
    ∃ why, SchemaCatalog.standard.validate (labelledBy n) = .ok (some why) ∧
      why.isWritable = (Value.int n).isWritable := by
  refine ⟨_, rfl, ?_⟩
  simp [Rejection.isWritable, Schema.Location.isWritable, Schema.Step.isWritable, Value.isWritable]

/-- Not every document that is not valid is refused with a fault of the manifest: the refusal of a label has
to name its key, and an integer of 4301 digits cannot be written. -/
theorem endlessLabel_escapes : ¬ ∀ (source : Option String) (doc : Value), Supported doc →
    FailsOnly (Names source) (decodeDocuments .standard source [doc]) := by
  intro hnames
  have hwritable : (Value.int (10 ^ 4300)).isWritable = false := by decide +kernel
  obtain ⟨why, hwhy, hwritten⟩ := labelledBy_refused (10 ^ 4300)
  have hkind : kindOf (labelledBy (10 ^ 4300)) = .ok Kind.nameSpace.name := rfl
  have hraised := decodeDocument_invalid none hkind hwhy
  rw [hwritten, hwritable] at hraised
  exact not_names_mismatch none
    (hnames none (labelledBy (10 ^ 4300)) ⟨_, .nameSpace, hkind, Kind.ofName?_name _⟩ _ hraised)

end Manifest
end StageGate
