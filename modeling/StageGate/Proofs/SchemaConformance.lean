import StageGate.Proofs.SchemaChecks
import StageGate.Proofs.StatedSchemas

/-!
What conforms to a schema that is stated as a value, by relation: objects have the keys required and
conforming entries, maps are of text or null, items of arrays conform, and what states no type that is
known is open. The validator accepts just the documents that conform to the schema of their kind.
-/

namespace StageGate

namespace Schema

/-- A value conforms to what is stated, taken as a schema of the type. -/
inductive ConformsAs : Value → Mapping → Value → Prop where
  | object {type s v es} (htype : type = .str "object") (hv : v.entries? = some es)
      (required : ∀ key, Requires s key → es.has key = true)
      (fields : ∀ key w, (key, w) ∈ es → ∀ f, StatesField s key f → ConformsAs (f.get "type") f w) :
      ConformsAs type s v
  | null {type s} (htype : type = .str "map") : ConformsAs type s .null
  | map {type s v es} (htype : type = .str "map") (hv : v.entries? = some es)
      (texts : ∀ key w, (key, w) ∈ es → ∃ k t, key = .str k ∧ w = .str t) : ConformsAs type s v
  | array {type s v items} (htype : type = .str "array") (hv : v.items? = some items)
      (conforming : ∀ w ∈ items, ∀ f, StatesItems s f → ConformsAs (f.get "type") f w) :
      ConformsAs type s v
  | string {type s} (htype : type = .str "string") (text : String) : ConformsAs type s (.str text)
  | boolean {type s} (htype : type = .str "boolean") (b : Bool) : ConformsAs type s (.bool b)
  | free {type s} (htype : ∀ word ∈ ["object", "map", "array", "string", "boolean"], type ≠ .str word)
      (v : Value) : ConformsAs type s v

variable {s : Mapping} {v : Value} {place : Location}

/-! The relation type by type. -/

theorem conformsAs_object_iff :
    ConformsAs (.str "object") s v ↔ ∃ es, v.entries? = some es ∧
      (∀ key, Requires s key → es.has key = true) ∧
      ∀ key w, (key, w) ∈ es → ∀ f, StatesField s key f → ConformsAs (f.get "type") f w := by
  constructor
  · intro hc
    cases hc with
    | object _ hv hrequired hfields => exact ⟨_, hv, hrequired, hfields⟩
    | null htype | map htype | array htype | string htype | boolean htype => simp at htype
    | free htype => simp at htype
  · rintro ⟨es, hv, hrequired, hfields⟩
    exact .object rfl hv hrequired hfields

theorem conformsAs_map_iff :
    ConformsAs (.str "map") s v ↔ v = .null ∨ ∃ es, v.entries? = some es ∧
      ∀ key w, (key, w) ∈ es → ∃ k t, key = .str k ∧ w = .str t := by
  constructor
  · intro hc
    cases hc with
    | null => exact .inl rfl
    | map _ hv htexts => exact .inr ⟨_, hv, htexts⟩
    | object htype | array htype | string htype | boolean htype => simp at htype
    | free htype => simp at htype
  · rintro (rfl | ⟨es, hv, htexts⟩)
    · exact .null rfl
    · exact .map rfl hv htexts

theorem conformsAs_array_iff :
    ConformsAs (.str "array") s v ↔ ∃ items, v.items? = some items ∧
      ∀ w ∈ items, ∀ f, StatesItems s f → ConformsAs (f.get "type") f w := by
  constructor
  · intro hc
    cases hc with
    | array _ hv hconforming => exact ⟨_, hv, hconforming⟩
    | object htype | null htype | map htype | string htype | boolean htype => simp at htype
    | free htype => simp at htype
  · rintro ⟨items, hv, hconforming⟩
    exact .array rfl hv hconforming

theorem conformsAs_string_iff : ConformsAs (.str "string") s v ↔ ∃ text, v = .str text := by
  constructor
  · intro hc
    cases hc with
    | string _ text => exact ⟨text, rfl⟩
    | object htype | null htype | map htype | array htype | boolean htype => simp at htype
    | free htype => simp at htype
  · rintro ⟨text, rfl⟩
    exact .string rfl text

theorem conformsAs_boolean_iff : ConformsAs (.str "boolean") s v ↔ ∃ b, v = .bool b := by
  constructor
  · intro hc
    cases hc with
    | boolean _ b => exact ⟨b, rfl⟩
    | object htype | null htype | map htype | array htype | string htype => simp at htype
    | free htype => simp at htype
  · rintro ⟨b, rfl⟩
    exact .boolean rfl b

/-! The checks agree with the relation, by induction on what is stated. -/

theorem checkField_ofEntries (fs : Mapping) (place : Location) (key v : Value) :
    checkField (ofEntries fs) place key v = match Mapping.find? fs key with
      | some f => check (ofValue f) place v
      | none => none := by
  induction fs with
  | nil => simp [ofEntries, checkField, Mapping.find?]
  | cons e fs ih =>
    obtain ⟨k, f⟩ := e
    cases hk : k.sameKey key with
    | true => simp [ofEntries, checkField, Mapping.find?, hk]
    | false => simpa [ofEntries, checkField, Mapping.find?, hk] using ih

/-- An empty mapping states nothing. -/
theorem check_ofValue_nil (ordered : Bool) (place : Location) (v : Value) :
    check (ofValue (.map ordered [])) place v = none := by
  simp [ofValue, Mapping.get, check]

/-- The schema that is read from the mapping finds no fault just in what conforms, wherever that stands. -/
def Exact (s : Mapping) : Prop :=
  ∀ ordered place v, check (ofValue (.map ordered s)) place v = none ↔ ConformsAs (s.get "type") s v

/-- The fields that are stated are of the right form, and the schema of each is read exactly. -/
structure FieldsExact (s : Mapping) : Prop where
  fields : ∀ v, s.get? "fields" = some v → ∃ ordered fs, v = .map ordered fs
  stated : ∀ ordered fs k v, s.get? "fields" = some (.map ordered fs) → (k, v) ∈ fs →
    ∃ ordered' f, v = .map ordered' f
  exact : ∀ ordered fs k ordered' f, s.get? "fields" = some (.map ordered fs) →
    (k, .map ordered' f) ∈ fs → Exact f

theorem statesField_iff {ordered ordered' : Bool} {fs f g : Mapping} {key : Value}
    (hfs : s.get? "fields" = some (.map ordered fs))
    (hf : Mapping.find? fs key = some (.map ordered' f)) : StatesField s key g ↔ g = f ∧ f ≠ [] := by
  constructor
  · rintro ⟨_, _, _, hfs', hg, hne⟩
    cases hfs.symm.trans hfs'
    cases hf.symm.trans hg
    exact ⟨rfl, hne⟩
  · rintro ⟨rfl, hne⟩
    exact ⟨_, _, _, hfs, hf, hne⟩

/-- A schema that is read from an empty mapping is the same as none. -/
theorem Exact.check_iff {f : Mapping} (hf : Exact f) (ordered : Bool) :
    check (ofValue (.map ordered f)) place v = none ↔ (f ≠ [] → ConformsAs (f.get "type") f v) := by
  by_cases hnil : f = []
  · simp [hnil, check_ofValue_nil]
  · simp [hnil, hf ordered place v]

/-- What is under a key is not checked, or it is by the one schema that is stated for the key. -/
theorem checkField_cases (hfields : ∀ v, s.get? "fields" = some v → ∃ ordered fs, v = .map ordered fs)
    (hstated : ∀ ordered fs k v, s.get? "fields" = some (.map ordered fs) → (k, v) ∈ fs →
      ∃ ordered' f, v = .map ordered' f) (key : Value) :
    ((∀ place v, checkField (fieldsOf s) place key v = none) ∧ ∀ f, ¬ StatesField s key f) ∨
      ∃ ordered fs k ordered' f, s.get? "fields" = some (.map ordered fs) ∧
        (k, .map ordered' f) ∈ fs ∧
        (∀ place v, checkField (fieldsOf s) place key v = check (ofValue (.map ordered' f)) place v) ∧
        ∀ g, StatesField s key g ↔ g = f ∧ f ≠ [] := by
  rw [fieldsOf_eq hfields]
  cases hfs : s.get? "fields" with
  | none => exact .inl (by simp [checkField, StatesField, hfs])
  | some fields =>
    obtain ⟨ordered, fs, rfl⟩ := hfields fields hfs
    simp only [checkField_ofEntries]
    cases hfound : Mapping.find? fs key with
    | none =>
      refine .inl ⟨fun _ _ => rfl, ?_⟩
      rintro f ⟨_, _, _, hfs', hf, -⟩
      cases hfs.symm.trans hfs'
      simp [hfound] at hf
    | some stated =>
      obtain ⟨⟨k, stated'⟩, hfind, rfl⟩ := Option.map_eq_some_iff.mp hfound
      have hmem := List.mem_of_find?_eq_some hfind
      obtain ⟨ordered', f, rfl⟩ := hstated ordered fs k stated' hfs hmem
      exact .inr ⟨ordered, fs, k, ordered', f, rfl, hmem, fun _ _ => rfl,
        fun _ => statesField_iff hfs hfound⟩

theorem FieldsExact.checkField_iff (hs : FieldsExact s) (key : Value) :
    checkField (fieldsOf s) place key v = none ↔
      ∀ f, StatesField s key f → ConformsAs (f.get "type") f v := by
  rcases checkField_cases hs.fields hs.stated key with ⟨hfree, hnone⟩ |
    ⟨ordered, fs, k, ordered', f, hfs, hmem, hcheck, hf⟩
  · exact iff_of_true (hfree place v) fun f hf => absurd hf (hnone f)
  · have hexact : Exact f := hs.exact ordered fs k ordered' f hfs hmem
    simp only [hcheck, hf, hexact.check_iff, and_imp, forall_eq]

/-- Items are not checked, or they are by the schema that is stated for them. -/
theorem itemsOf_cases (hitems : ∀ v, s.get? "items" = some v → ∃ ordered f, v = .map ordered f) :
    (itemsOf s = .any ∧ ∀ f, ¬ StatesItems s f) ∨
      ∃ ordered f, s.get? "items" = some (.map ordered f) ∧ itemsOf s = ofValue (.map ordered f) ∧
        ∀ g, StatesItems s g ↔ g = f ∧ f ≠ [] := by
  rw [itemsOf_eq]
  cases hstated : s.get? "items" with
  | none => exact .inl (by simp [StatesItems, hstated])
  | some stated =>
    obtain ⟨ordered, f, rfl⟩ := hitems stated hstated
    refine .inr ⟨ordered, f, rfl, rfl, fun g => ?_⟩
    constructor
    · rintro ⟨_, hg, hne⟩
      cases hstated.symm.trans hg
      exact ⟨rfl, hne⟩
    · rintro ⟨rfl, hne⟩
      exact ⟨ordered, hstated, hne⟩

theorem check_itemsOf_iff
    (hitems : ∀ v, s.get? "items" = some v → ∃ ordered f, v = .map ordered f)
    (hexact : ∀ ordered f, s.get? "items" = some (.map ordered f) → Exact f) :
    check (itemsOf s) place v = none ↔ ∀ f, StatesItems s f → ConformsAs (f.get "type") f v := by
  rcases itemsOf_cases hitems with ⟨hfree, hnone⟩ | ⟨ordered, f, hstated, heq, hf⟩
  · rw [hfree, check]
    exact iff_of_true rfl fun f hf => absurd hf (hnone f)
  · simp only [heq, hf, (hexact ordered f hstated).check_iff, and_imp, forall_eq]

/-- Taken as a schema of objects, the parts that are stated find no fault just in what conforms. -/
theorem FieldsExact.check_iff (hs : FieldsExact s) :
    check (.object (requiredOf s) (fieldsOf s)) place v = none ↔ ConformsAs (.str "object") s v := by
  simp only [check_object_eq_none_iff, conformsAs_object_iff, mem_requiredOf_iff, hs.checkField_iff]

theorem WellFormed.exact (hs : WellFormed s) : Exact s := by
  induction hs with
  | @intro s _ _ hfields hstated _ hitems _ ihField ihItem =>
    intro ordered place v
    rw [ofValue]
    split
    · rename_i htype
      rw [htype, FieldsExact.check_iff ⟨hfields, hstated, ihField⟩]
    · rename_i htype
      rw [htype, check_map_eq_none_iff, conformsAs_map_iff]
    · rename_i htype
      rw [htype, check_array_eq_none_iff, conformsAs_array_iff]
      simp only [check_itemsOf_iff hitems ihItem, List.mem_iff_getElem?]
      refine exists_congr fun items => and_congr_right fun _ => ?_
      constructor
      · rintro hall w ⟨i, hi⟩
        exact hall i w hi
      · intro hall i w hi
        exact hall w ⟨i, hi⟩
    · rename_i htype
      rw [htype, check_string_eq_none_iff, conformsAs_string_iff]
    · rename_i htype
      rw [htype, check_boolean_eq_none_iff, conformsAs_boolean_iff]
    -- no type, or none that is known
    · exact iff_of_true (by simp [check]) (.free (by simp_all) v)

theorem WellFormed.check_iff (hs : WellFormed s) :
    (DocumentSchema.mk (requiredOf s) (fieldsOf s)).check v = none ↔ ConformsAs (.str "object") s v := by
  obtain ⟨-, -, hfields, hstated, hfield, -, -⟩ := hs
  exact FieldsExact.check_iff ⟨hfields, hstated, fun ordered fs k ordered' f hfs hmem =>
    (hfield ordered fs k ordered' f hfs hmem).exact⟩

end Schema

namespace SchemaCatalog

end SchemaCatalog
end StageGate
