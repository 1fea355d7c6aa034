import StageGate.Manifest.Decode
import StageGate.Proofs.Computations
import StageGate.Proofs.SchemaChecks

/-!
The metadata of decoded resources. Under the standard catalog the name is text, and the namespace is text
or absent.
-/

namespace StageGate

theorem Value.entries_of_absent {v : Value} {es : Mapping} (hv : v.isPresent = false)
    (hes : v.entries? = some es) : es = [] := by
  cases v with
  | map ordered entries =>
    have hnil : entries = [] := by simpa [isPresent] using hv
    subst hnil
    simpa [entries?, unfoldEntries] using hes.symm
  | _ => simp [entries?] at hes

/-- A name that is text, and a namespace that is text or absent. -/
structure Metadata.Textual (m : Metadata) : Prop where
  name : ∃ s, m.name = .str s
  namespaceName : m.namespaceName = .null ∨ ∃ s, m.namespaceName = .str s

theorem Metadata.Textual.isWritable {m : Metadata} (hm : m.Textual) : m.name.isWritable = true := by
  obtain ⟨s, hs⟩ := hm.name
  rw [hs]
  rfl

namespace Manifest
variable {v doc : Value} {es : Mapping} {r : Resource} {kind : Kind} {place : Schema.Location}
  {catalog : SchemaCatalog} {source : Option String} {bytes : List UInt8}

theorem kindOf_eq_ok {name : String} (hname : kindOf doc = .ok name) :
    ∃ es s, doc.entries? = some es ∧ es.get "kind" = .str s := by
  unfold kindOf at hname
  cases hes : doc.entries? with
  | none => simp [hes] at hname
  | some es =>
    cases hkind : es.get "kind" with
    | str s => exact ⟨es, s, rfl, hkind⟩
    | _ => simp [hes, hkind] at hname

theorem membersOf_of_entries {m : Mapping} (hm : v.entries? = some m) : membersOf v = .ok m := by
  unfold membersOf
  cases hpresent : v.isPresent with
  | false =>
    rw [Value.entries_of_absent hpresent hm]
    rfl
  | true => simp [hm]

theorem membersOf_eq_ok {m : Mapping} :
    membersOf v = .ok m ↔ v.isPresent = false ∧ m = [] ∨ v.entries? = some m := by
  constructor
  · intro hm
    unfold membersOf at hm
    cases hpresent : v.isPresent with
    | false =>
      simp only [hpresent, Bool.not_false, if_true] at hm
      cases hm
      exact .inl ⟨rfl, rfl⟩
    | true =>
      cases hes : v.entries? with
      | none => simp [hpresent, hes] at hm
      | some es =>
        simp only [hpresent, hes, Bool.not_true, Bool.false_eq_true, if_false] at hm
        cases hm
        exact .inr rfl
  · rintro (⟨hpresent, rfl⟩ | hes)
    · simp [membersOf, hpresent]
    · exact membersOf_of_entries hes

theorem metadata_fields (hcheck : Schema.metadata.check place v = none) :
    ∃ fields, v.entries? = some fields ∧ (∃ s, fields.get "name" = .str s) ∧
      (fields.get "namespace" = .null ∨ ∃ s, fields.get "namespace" = .str s) := by
  obtain ⟨fields, hfields, hrequired, hentries⟩ := Schema.check_object_eq_none_iff.mp hcheck
  have htext (key : String) (hkey : key = "name" ∨ key = "namespace") (hhas : fields.has key = true) :
      ∃ s, fields.get key = .str s := by
    have hfield := hentries _ _ (Mapping.mem_of_has hhas)
    rw [← Value.isStr_iff]
    rcases hkey with rfl | rfl <;>
      simpa [Schema.checkField, Schema.field, Value.sameKey, Value.key?, Schema.check] using hfield
  refine ⟨fields, hfields, htext "name" (.inl rfl) (hrequired _ (by simp)), ?_⟩
  cases hhas : fields.has "namespace" with
  | true => exact .inr (htext _ (.inr rfl) hhas)
  | false =>
    have hnone : fields.get? "namespace" = none := by simpa [Mapping.has] using hhas
    exact .inl (by rw [Mapping.get, hnone]; rfl)

theorem resourceOf_kind (hr : resourceOf kind doc es = .ok r) : r.kind = kind := by
  obtain ⟨metadata, -, hr⟩ := bind_eq_ok.mp hr
  obtain ⟨content, -, hr⟩ := bind_eq_ok.mp hr
  cases hr
  rfl

theorem resourceOf_metadata (hr : resourceOf kind doc es = .ok r) :
    ∃ fields, membersOf (es.get "metadata") = .ok fields ∧
      r.metadata.name = fields.get "name" ∧ r.metadata.namespaceName = fields.get "namespace" := by
  obtain ⟨metadata, hmetadata, hr⟩ := bind_eq_ok.mp hr
  obtain ⟨content, -, hr⟩ := bind_eq_ok.mp hr
  obtain ⟨fields, hmembers, hmetadata⟩ := bind_eq_ok.mp hmetadata
  obtain ⟨labels, -, hmetadata⟩ := bind_eq_ok.mp hmetadata
  obtain ⟨annotations, -, hmetadata⟩ := bind_eq_ok.mp hmetadata
  cases hmetadata
  cases hr
  exact ⟨fields, hmembers, rfl, rfl⟩

/-- The schemas of the standard catalog ask for metadata in their first field. -/
theorem standard_fields {s : DocumentSchema} (hs : s ∈ SchemaCatalog.standard.map Prod.snd) :
    ∃ rest, s.fields = Schema.field "metadata" Schema.metadata :: rest := by
  simp only [SchemaCatalog.standard, List.map_cons, List.map_nil, List.mem_cons, List.not_mem_nil,
    or_false] at hs
  rcases hs with rfl | rfl | rfl | rfl | rfl | rfl | rfl | rfl | rfl | rfl | rfl
  all_goals exact ⟨_, rfl⟩

/-- What is valid under the standard catalog has metadata that pass their schema. -/
theorem metadata_checked (hvalid : SchemaCatalog.standard.validate doc = .ok none) :
    ∃ es, doc.entries? = some es ∧
      Schema.metadata.check [.key (.str "metadata")] (es.get "metadata") = none := by
  obtain ⟨es, s, hes, hcore, -, -, hs, hcheck⟩ := SchemaCatalog.validate_eq_none_iff.mp hvalid
  obtain ⟨e, hfind, rfl⟩ := Option.map_eq_some_iff.mp hs
  obtain ⟨rest, hfields⟩ := standard_fields (List.mem_map_of_mem (List.mem_of_find?_eq_some hfind))
  obtain ⟨es', hes', -, hentries⟩ := Schema.check_object_eq_none_iff.mp hcheck
  cases hes.symm.trans hes'
  have hmetadata := hentries _ _ (Mapping.mem_of_has (hcore "metadata" (by simp)))
  have hkey : (Value.str "metadata").sameKey (.str "metadata") = true := by simp [Value.sameKey, Value.key?]
  exact ⟨es, hes, by simpa [hfields, Schema.field, Schema.checkField, hkey] using hmetadata⟩

/-- What is made of a document that is valid under the standard catalog has textual metadata. -/
theorem resourceOf_textual (hvalid : SchemaCatalog.standard.validate doc = .ok none)
    (hes : doc.entries? = some es) (hr : resourceOf kind doc es = .ok r) : r.metadata.Textual := by
  obtain ⟨es', hes', hmetadata⟩ := metadata_checked hvalid
  cases hes.symm.trans hes'
  obtain ⟨fields, hfields, ⟨name, hname⟩, hnamespace⟩ := metadata_fields hmetadata
  obtain ⟨fields', hmembers, hname', hnamespace'⟩ := resourceOf_metadata hr
  cases (membersOf_of_entries hfields).symm.trans hmembers
  exact ⟨⟨name, hname'.trans hname⟩, by rwa [hnamespace']⟩

/-- What is recognized is valid and of a supported kind, and the resource is made of the document and
goes into the slot of its kind. -/
theorem decodeDocument_recognized {slot : String}
    (hr : decodeDocument catalog source doc = .ok (.recognized slot r)) :
    catalog.validate doc = .ok none ∧ ∃ name kind es, kindOf doc = .ok name ∧
      Kind.ofName? name = some kind ∧ doc.entries? = some es ∧ resourceOf kind doc es = .ok r ∧
        slot = kind.slotName ∧ r.name.isWritable = true := by
  obtain ⟨name, hname, hr⟩ := bind_eq_ok.mp hr
  have hnamed := mapError_eq_ok.mp hname
  obtain ⟨es, s, hes, -⟩ := kindOf_eq_ok hnamed
  cases hkind : Kind.ofName? name with
  | none =>
    simp only [hkind] at hr
    cases hr
  | some kind =>
    simp only [hkind] at hr
    obtain ⟨verdict, hverdict, hr⟩ := bind_eq_ok.mp hr
    cases verdict with
    | some why => cases hr
    | none =>
      obtain ⟨r', hr', hr⟩ := bind_eq_ok.mp hr
      cases hwritable : r'.name.isWritable with
      | false => simp [hwritable] at hr
      | true =>
        simp only [hwritable, if_true] at hr
        cases hr
        have hmade : resourceOf kind doc es = .ok r := by simpa [hes] using mapError_eq_ok.mp hr'
        have hvalid := SchemaCatalog.verdict_eq_none.mp (mapError_eq_ok.mp hverdict)
        exact ⟨hvalid, name, kind, es, hnamed, hkind, hes, hmade, rfl, hwritable⟩

theorem decode_recognized [Yaml.Reader] {slot : String}
    (hr : decode catalog source bytes = .ok (.recognized slot r)) :
    ∃ doc, decodeDocument catalog source doc = .ok (.recognized slot r) := by
  obtain ⟨docs, -, hr⟩ := bind_eq_ok.mp hr
  unfold decodeDocuments at hr
  split at hr
  · cases hr
  · exact ⟨_, hr⟩
  · cases hr

/-- The metadata of what is recognized under the standard catalog. -/
theorem decode_textual [Yaml.Reader] {slot : String}
    (hr : decode .standard source bytes = .ok (.recognized slot r)) : r.metadata.Textual := by
  obtain ⟨doc, hdoc⟩ := decode_recognized hr
  obtain ⟨hvalid, -, kind, es, -, -, hes, hresource, -⟩ := decodeDocument_recognized hdoc
  exact resourceOf_textual hvalid hes hresource

end Manifest
end StageGate
