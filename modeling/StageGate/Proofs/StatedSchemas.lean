import StageGate.Proofs.MappingLookups
import StageGate.Schema.Reading

/-!
Schemas and catalogs that are stated as values: which of them are well formed, and what is read from
them. Every schema can be stated so, and so can every catalog whose kinds are different keys.
-/

namespace StageGate

namespace Schema

/-! What a mapping states as a schema. -/

/-- It requires the key. -/
def Requires (s : Mapping) (key : String) : Prop :=
  ∃ keys, s.get? "required" = some (.list keys) ∧ .str key ∈ keys

/-- It states a schema for the entries under the key. -/
def StatesField (s : Mapping) (key : Value) (f : Mapping) : Prop :=
  ∃ ordered fs ordered', s.get? "fields" = some (.map ordered fs) ∧
    Mapping.find? fs key = some (.map ordered' f) ∧ f ≠ []

/-- It states a schema for the items. -/
def StatesItems (s f : Mapping) : Prop :=
  ∃ ordered, s.get? "items" = some (.map ordered f) ∧ f ≠ []

/-- All that it states is of the right form: the type is text, the keys required are texts, and fields and
items have schemas of such a form. -/
inductive WellFormed : Mapping → Prop where
  | intro {s : Mapping}
    (type : ∀ v, s.get? "type" = some v → ∃ word, v = .str word)
    (required : ∀ v, s.get? "required" = some v → ∃ keys : List String, v = .list (keys.map .str))
    (fields : ∀ v, s.get? "fields" = some v → ∃ ordered fs, v = .map ordered fs)
    (fieldStated : ∀ ordered fs k v, s.get? "fields" = some (.map ordered fs) → (k, v) ∈ fs →
      ∃ ordered' f, v = .map ordered' f)
    (field : ∀ ordered fs k ordered' f, s.get? "fields" = some (.map ordered fs) →
      (k, .map ordered' f) ∈ fs → WellFormed f)
    (items : ∀ v, s.get? "items" = some v → ∃ ordered f, v = .map ordered f)
    (item : ∀ ordered f, s.get? "items" = some (.map ordered f) → WellFormed f) : WellFormed s

variable {s : Mapping}

/-! The parts of a schema that is read from a mapping. -/

theorem mem_requiredOf_iff {key : String} : key ∈ requiredOf s ↔ Requires s key := by
  unfold requiredOf Requires Mapping.get
  cases s.get? "required" with
  | none => simp
  | some v =>
    cases v with
    | list keys =>
      simp only [Option.getD_some, List.mem_filterMap, Option.some.injEq, Value.list.injEq,
        exists_eq_left']
      constructor
      · rintro ⟨v, hv, hkey⟩
        split at hkey
        · cases hkey
          exact hv
        · cases hkey
      · intro hkey
        exact ⟨.str key, hkey, rfl⟩
    | _ => simp

theorem fieldsOf_eq (hfields : ∀ v, s.get? "fields" = some v → ∃ ordered fs, v = .map ordered fs) :
    fieldsOf s = match s.get? "fields" with
      | some (.map _ fs) => ofEntries fs
      | _ => [] := by
  induction s with
  | nil => simp [fieldsOf]
  | cons e s ih =>
    obtain ⟨k, v⟩ := e
    by_cases hk : k = .str "fields"
    · subst hk
      obtain ⟨ordered, fs, rfl⟩ := hfields v (Mapping.get?_cons_self ..)
      simp [fieldsOf, Mapping.get?_cons_self]
    · rw [Mapping.get?_cons_other hk] at hfields ⊢
      rw [fieldsOf, ih hfields]
      exact fun _ _ hk' => hk (Prod.mk.inj hk').1

theorem itemsOf_eq (s : Mapping) :
    itemsOf s = match s.get? "items" with
      | some v => ofValue v
      | none => .any := by
  induction s with
  | nil => simp [itemsOf]
  | cons e s ih =>
    obtain ⟨k, v⟩ := e
    by_cases hk : k = .str "items"
    · subst hk
      simp [itemsOf, Mapping.get?_cons_self]
    · rw [Mapping.get?_cons_other hk, itemsOf, ih]
      exact fun _ hk' => hk (Prod.mk.inj hk').1

/-! Stating a schema. -/

mutual

/-- The entries that state a schema. -/
def toEntries : Schema → Mapping
  | .any => []
  | .string => [(.str "type", .str "string")]
  | .boolean => [(.str "type", .str "boolean")]
  | .map => [(.str "type", .str "map")]
  | .array items => [(.str "type", .str "array"), (.str "items", .map false (toEntries items))]
  | .object required fields => [
    (.str "type", .str "object"), (.str "required", .list (required.map .str)),
    (.str "fields", .map false (fieldsToEntries fields))]

def fieldsToEntries : List (Value × Schema) → Mapping
  | [] => []
  | (k, schema) :: fields => (k, .map false (toEntries schema)) :: fieldsToEntries fields

end

theorem requiredOf_toEntries (required : List String) (fields : List (Value × Schema)) :
    requiredOf (toEntries (.object required fields)) = required := by
  change (required.map Value.str).filterMap _ = required
  rw [List.filterMap_map]
  exact List.filterMap_some

/-! What is read from these entries is the schema again; fields and schemas contain each other. -/

mutual

theorem ofValue_toEntries (ordered : Bool) (schema : Schema) :
    ofValue (.map ordered schema.toEntries) = schema := by
  cases schema with
  | any | string | boolean | map => simp [toEntries, ofValue, Mapping.get, Mapping.get?]
  | array items =>
    have hread : ofValue (.map ordered (toEntries (.array items))) =
        .array (itemsOf (toEntries (.array items))) := rfl
    rw [hread, itemsOf_eq]
    exact congrArg Schema.array (ofValue_toEntries false items)
  | object required fields =>
    have hread : ofValue (.map ordered (toEntries (.object required fields))) =
        .object (requiredOf (toEntries (.object required fields)))
          (ofEntries (fieldsToEntries fields)) := rfl
    rw [hread, requiredOf_toEntries, ofEntries_fieldsToEntries fields]

theorem ofEntries_fieldsToEntries (fields : List (Value × Schema)) :
    ofEntries (fieldsToEntries fields) = fields := by
  cases fields with
  | nil => rfl
  | cons field fields =>
    obtain ⟨k, schema⟩ := field
    rw [fieldsToEntries, ofEntries, ofValue_toEntries false schema, ofEntries_fieldsToEntries fields]

end

theorem fieldsOf_toEntries (required : List String) (fields : List (Value × Schema)) :
    fieldsOf (toEntries (.object required fields)) = fields :=
  ofEntries_fieldsToEntries fields

mutual

theorem wellFormed_toEntries (schema : Schema) : WellFormed schema.toEntries := by
  cases schema with
  | any | string | boolean | map => constructor <;> simp [toEntries, Mapping.get?]
  | array items =>
    have hitems := wellFormed_toEntries items
    constructor
    case item =>
      intro ordered f hf
      have hget : (toEntries (.array items)).get? "items" = some (.map false items.toEntries) := rfl
      cases hget.symm.trans hf
      exact hitems
    all_goals simp [toEntries, Mapping.get?]
  | object required fields =>
    have hfields := wellFormed_fieldsToEntries fields
    have hget : (toEntries (.object required fields)).get? "fields" =
        some (.map false (fieldsToEntries fields)) := rfl
    constructor
    case required =>
      rintro v ⟨⟩
      exact ⟨required, rfl⟩
    case fieldStated =>
      intro ordered fs k v hfs hmem
      cases hget.symm.trans hfs
      obtain ⟨ordered', f, hv, -⟩ := hfields k v hmem
      exact ⟨ordered', f, hv⟩
    case field =>
      intro ordered fs k ordered' f hfs hmem
      cases hget.symm.trans hfs
      obtain ⟨_, _, hv, hf⟩ := hfields k _ hmem
      cases hv
      exact hf
    all_goals simp [toEntries, Mapping.get?]

theorem wellFormed_fieldsToEntries (fields : List (Value × Schema)) :
    ∀ k v, (k, v) ∈ fieldsToEntries fields → ∃ ordered f, v = .map ordered f ∧ WellFormed f := by
  cases fields with
  | nil => simp [fieldsToEntries]
  | cons field fields =>
    obtain ⟨k, schema⟩ := field
    intro k' v hv
    rcases List.mem_cons.mp hv with heq | hv
    · cases heq
      exact ⟨false, _, rfl, wellFormed_toEntries schema⟩
    · exact wellFormed_fieldsToEntries fields k' v hv

end

end Schema

namespace SchemaCatalog

/-- A catalog is well formed if its kinds are different keys and their schemas are well formed. -/
inductive WellFormed : Value → Prop where
  | intro {ordered kinds} (distinct : kinds.Pairwise fun e e' => e.1.sameKey e'.1 = false)
      (stated : ∀ kind v, (kind, v) ∈ kinds → ∃ ordered' s, v = .map ordered' s ∧ Schema.WellFormed s) :
      WellFormed (.map ordered kinds)

/-- It states a schema for the kind. -/
def StatesKind (catalog kind : Value) (s : Mapping) : Prop :=
  ∃ ordered kinds ordered', catalog = .map ordered kinds ∧
    Mapping.find? kinds kind = some (.map ordered' s) ∧ s ≠ []

/-- Of kinds that are different keys, none after the one that is looked for is the same key. -/
theorem find?_eq_none_of_distinct {k v kind : Value} {kinds : Mapping}
    (hdistinct : ((k, v) :: kinds).Pairwise fun e e' => e.1.sameKey e'.1 = false)
    (hk : k.sameKey kind = true) : Mapping.find? kinds kind = none := by
  rw [Mapping.find?, Option.map_eq_none_iff, List.find?_eq_none]
  intro e he hsame
  have hdiffers := (List.pairwise_cons.mp hdistinct).1 e he
  simp [Value.sameKey_of_sameKey hk hsame] at hdiffers

/-- What a value states for a kind, if it states anything. -/
def stated? : Value → Option DocumentSchema
  | .map _ (e :: s) => some ⟨Schema.requiredOf (e :: s), Schema.fieldsOf (e :: s)⟩
  | _ => none

theorem ofValue_cons (ordered : Bool) (k v : Value) (kinds : Mapping) :
    ofValue (.map ordered ((k, v) :: kinds)) =
      ((stated? v).map fun d => (k, d)).toList ++ ofValue (.map ordered kinds) := by
  cases v with
  | map _ s => cases s <;> simp [ofValue, stated?]
  | _ => simp [ofValue, stated?]

/-- Of kinds that are different keys the one that is looked for decides. -/
theorem find?_ofValue {ordered : Bool} {kinds : Mapping} (kind : Value)
    (hdistinct : kinds.Pairwise fun e e' => e.1.sameKey e'.1 = false) :
    (ofValue (.map ordered kinds)).find? kind = (Mapping.find? kinds kind).bind stated? := by
  induction kinds with
  | nil => rfl
  | cons e kinds ih =>
    obtain ⟨k, v⟩ := e
    have hrest := ih hdistinct.of_cons
    rw [ofValue_cons]
    cases hk : k.sameKey kind with
    | false =>
      have htail : Mapping.find? ((k, v) :: kinds) kind = Mapping.find? kinds kind := by
        simp [Mapping.find?, hk]
      rw [htail, ← hrest]
      cases stated? v <;> simp [find?, hk]
    | true =>
      have hhead : Mapping.find? ((k, v) :: kinds) kind = some v := by simp [Mapping.find?, hk]
      rw [hhead]
      -- what states nothing is left out, so a later entry would count if its key were the same
      cases hv : stated? v with
      | some d => simp [find?, hk, hv]
      | none =>
        rw [find?_eq_none_of_distinct hdistinct hk] at hrest
        simpa [hv] using hrest

/-- The schema that is read for a kind is the one that is stated for it. -/
theorem find?_ofValue_iff {catalog kind : Value} {d : DocumentSchema} (hc : WellFormed catalog) :
    (ofValue catalog).find? kind = some d ↔
      ∃ s, StatesKind catalog kind s ∧ d = ⟨Schema.requiredOf s, Schema.fieldsOf s⟩ := by
  obtain ⟨hdistinct, -⟩ := hc
  rw [find?_ofValue kind hdistinct, Option.bind_eq_some_iff]
  constructor
  · rintro ⟨v, hfind, hv⟩
    unfold stated? at hv
    split at hv
    · cases hv
      exact ⟨_, ⟨_, _, _, rfl, hfind, List.cons_ne_nil _ _⟩, rfl⟩
    · cases hv
  · rintro ⟨s, ⟨_, _, ordered', heq, hfind, hne⟩, rfl⟩
    cases heq
    obtain ⟨e, s, rfl⟩ := List.exists_cons_of_ne_nil hne
    exact ⟨_, hfind, rfl⟩

theorem WellFormed.schema {catalog kind : Value} {s : Mapping} (hc : WellFormed catalog)
    (hs : StatesKind catalog kind s) : Schema.WellFormed s := by
  obtain ⟨-, hstated⟩ := hc
  obtain ⟨_, _, _, heq, hfind, -⟩ := hs
  cases heq
  obtain ⟨⟨k, v⟩, hfound, rfl⟩ := Option.map_eq_some_iff.mp hfind
  obtain ⟨_, _, hv, hs⟩ := hstated k _ (List.mem_of_find?_eq_some hfound)
  cases hv
  exact hs

/-- The value that states a catalog. -/
def toValue (c : SchemaCatalog) : Value :=
  .map false (c.map fun (kind, d) => (kind, .map false (Schema.object d.required d.fields).toEntries))

theorem ofValue_toValue (c : SchemaCatalog) : ofValue c.toValue = c := by
  induction c with
  | nil => rfl
  | cons e c ih =>
    obtain ⟨kind, required, fields⟩ := e
    have hstated : stated? (.map false (Schema.object required fields).toEntries) =
        some ⟨required, fields⟩ := by
      let entries := (Schema.object required fields).toEntries
      have hread : stated? (.map false entries) =
          some ⟨Schema.requiredOf entries, Schema.fieldsOf entries⟩ := rfl
      rw [hread, Schema.requiredOf_toEntries, Schema.fieldsOf_toEntries]
    rw [toValue, List.map_cons, ofValue_cons, hstated]
    exact congrArg (_ :: ·) ih

theorem wellFormed_toValue {c : SchemaCatalog}
    (hdistinct : c.Pairwise fun e e' => e.1.sameKey e'.1 = false) : WellFormed c.toValue := by
  refine .intro (List.pairwise_map.mpr hdistinct) fun kind v hv => ?_
  obtain ⟨⟨kind', d⟩, -, heq⟩ := List.mem_map.mp hv
  cases heq
  exact ⟨false, _, rfl, Schema.wellFormed_toEntries _⟩

theorem standard_wellFormed : WellFormed standard.toValue :=
  wellFormed_toValue (by decide)

end SchemaCatalog
end StageGate
