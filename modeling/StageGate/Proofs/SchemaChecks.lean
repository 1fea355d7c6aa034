import StageGate.Schema.Catalog

/-!
When a document is valid: what a check by each kind of schema asks of a value, and what the validator asks
of a document besides the check by the schema of its kind.
-/

namespace StageGate

theorem Value.isStr_iff {v : Value} : v.isStr = true ↔ ∃ s, v = .str s := by
  cases v <;> simp [isStr]

theorem Mapping.mem_of_has {es : Mapping} {key : String} (hhas : es.has key = true) :
    (.str key, es.get key) ∈ es := by
  obtain ⟨v, hv⟩ := Option.isSome_iff_exists.mp hhas
  have hget : es.get key = v := by rw [Mapping.get, hv, Option.getD_some]
  obtain ⟨⟨k, v'⟩, hfind, rfl⟩ := Option.map_eq_some_iff.mp hv
  have hk := List.find?_some hfind
  have hmem := List.mem_of_find?_eq_some hfind
  cases k with
  | str s =>
    obtain rfl : s = key := by simpa using hk
    rwa [hget]
  | _ => simp at hk

namespace Schema
variable {v : Value} {place : Location}

theorem check_object_eq_none_iff {required : List String} {fields : List (Value × Schema)} :
    check (.object required fields) place v = none ↔ ∃ es, v.entries? = some es ∧
      (∀ key ∈ required, es.has key = true) ∧
      ∀ key w, (key, w) ∈ es → checkField fields (place ++ [.key key]) key w = none := by
  cases hv : v.entries? with
  | none => simp [check, hv]
  | some es => simp [check, hv, firstMissing]

theorem check_map_eq_none_iff :
    check .map place v = none ↔ v = .null ∨ ∃ es, v.entries? = some es ∧
      ∀ key w, (key, w) ∈ es → ∃ k t, key = .str k ∧ w = .str t := by
  cases hv : v.entries? with
  | none => cases v <;> simp_all [check]
  | some es =>
    have hnull : v ≠ .null := by
      rintro rfl
      simp [Value.entries?] at hv
    simp [check, hv, hnull, firstNotText, Value.isStr_iff]

theorem check_array_eq_none_iff {schema : Schema} :
    check (.array schema) place v = none ↔ ∃ items, v.items? = some items ∧
      ∀ i w, items[i]? = some w → check schema (place ++ [.index i]) w = none := by
  cases hv : v.items? with
  | none => simp [check, hv]
  | some items =>
    simp only [check, hv, List.findSome?_eq_none_iff, Prod.forall, List.mem_zipIdx_iff_getElem?,
      Option.some.injEq, exists_eq_left']
    exact forall_comm

theorem check_string_eq_none_iff : check .string place v = none ↔ ∃ text, v = .str text := by
  simp [check, ← Value.isStr_iff]

theorem check_boolean_eq_none_iff : check .boolean place v = none ↔ ∃ b, v = .bool b := by
  cases v <;> simp [check]

/-- No schema tells the values apart: one that is passed by one of them is passed by the other. -/
def Indistinct (v w : Value) : Prop :=
  ∀ schema place, check schema place v = none ↔ check schema place w = none

theorem Indistinct.checkField_iff {w : Value} (h : Indistinct v w)
    (fields : List (Value × Schema)) (place : Location) (key : Value) :
    checkField fields place key v = none ↔ checkField fields place key w = none := by
  induction fields with
  | nil => rfl
  | cons field fields ih =>
    rw [checkField, checkField]
    split
    · exact h ..
    · exact ih

end Schema

namespace SchemaCatalog
variable {c : SchemaCatalog} {doc : Value}

/-- A kind that is a key gets every document a verdict. -/
theorem exists_verdict (c : SchemaCatalog)
    (hkind : ∀ es, doc.entries? = some es → (es.get "kind").key?.isSome = true) :
    ∃ verdict, c.validate doc = .ok verdict := by
  unfold validate
  cases hes : doc.entries? with
  | none => exact ⟨_, rfl⟩
  | some es =>
    have hkey : (es.get "kind").key?.isNone = false := by simpa using hkind es hes
    simp only [hkey]
    split
    · exact ⟨_, rfl⟩
    · split
      · exact ⟨_, rfl⟩
      · cases c.find? (es.get "kind") <;> exact ⟨_, rfl⟩

/-- A document whose kind has no schema is rejected for a reason that can be written, if its kind can. -/
theorem isWritable_of_unlisted {es : Mapping} {why : Rejection} (hes : doc.entries? = some es)
    (hunlisted : c.find? (es.get "kind") = none) (hwritable : (es.get "kind").isWritable = true)
    (hvalid : c.validate doc = .ok (some why)) : why.isWritable = true := by
  simp only [validate, hes, hunlisted] at hvalid
  split at hvalid
  · cases hvalid
    rfl
  split at hvalid
  · cases hvalid
    rfl
  split at hvalid
  · cases hvalid
  · cases hvalid
    exact hwritable

/-- A valid document has the core fields, text for its version, and a schema for its kind, which it
passes. -/
theorem validate_eq_none_iff :
    c.validate doc = .ok none ↔ ∃ es s, doc.entries? = some es ∧
      (∀ field ∈ ["apiVersion", "kind", "metadata"], es.has field = true) ∧
      (es.get "apiVersion").isStr = true ∧ (es.get "kind").key?.isSome = true ∧
      c.find? (es.get "kind") = some s ∧ s.check doc = none := by
  unfold validate
  cases hes : doc.entries? with
  | none => simp
  | some es =>
    have hcore : coreFields.find? (fun field => !es.has field) = none ↔
        ∀ field ∈ ["apiVersion", "kind", "metadata"], es.has field = true := by simp [coreFields]
    simp only [Option.some.injEq, exists_and_left, exists_eq_left']
    cases hfirst : coreFields.find? fun field => !es.has field with
    | some field =>
      rw [← hcore, hfirst]
      simp
    | none =>
      rw [← hcore, hfirst]
      cases hversion : (es.get "apiVersion").isStr with
      | false => simp
      | true =>
        cases hkey : (es.get "kind").key? with
        | none => simp
        | some key => cases c.find? (es.get "kind") <;> simp

end SchemaCatalog
end StageGate
