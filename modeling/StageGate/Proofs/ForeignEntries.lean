import StageGate.Proofs.ReadDocuments
import StageGate.Proofs.ReorderedManifests

/-!
Entries that decoding does not ask for. A manifest may have more at its root, or in its metadata, than the
schema and the content of its kind mention, and it decodes to the same resource. Together with the freedom
of order this says that a resource depends on the values under the keys that are mentioned, and on no more.
-/

namespace StageGate
namespace Manifest
open Value

/-- The key is none that every document has at its root, nor one that the schema of the document's kind or
the content of that kind mentions there. -/
structure Foreign (doc : Value) (key : String) : Prop where
  core : key ∉ SchemaCatalog.coreFields
  required : ∀ kind : Kind, kindOf doc = .ok kind.name → key ∉ (Schema.ofKind kind).required
  field : ∀ kind : Kind, kindOf doc = .ok kind.name → Schema.find? (Schema.ofKind kind).fields key = none
  content : ∀ kind : Kind, kindOf doc = .ok kind.name → key ∉ kind.contentKeys

/-- The second document is the first with more entries under foreign keys, at its root or in its metadata. -/
inductive Enlarged : Value → Value → Prop where
  | refl (doc) : Enlarged doc doc
  | atRoot {doc doc' before key v after} (hforeign : Foreign doc key)
      (hes : doc.entries? = some (before ++ after))
      (hes' : doc'.entries? = some (before ++ (.str key, v) :: after)) : Enlarged doc doc'
  | inMetadata {doc doc' es m m' before key v after} (hforeign : key ∉ Metadata.keys)
      (hes : doc.entries? = some es) (hm : es.get? "metadata" = some m)
      (hfields : m.entries? = some (before ++ after))
      (hfields' : m'.entries? = some (before ++ (.str key, v) :: after))
      (hes' : doc'.entries? = some (es.insert (.str "metadata") m')) : Enlarged doc doc'
  | trans {doc doc' doc''} (hfirst : Enlarged doc doc') (hsecond : Enlarged doc' doc'') : Enlarged doc doc''

section
variable {doc doc' m m' v : Value} {es before after : Mapping} {key : String}

/-! One more entry. -/

theorem sameFields_atRoot (hforeign : Foreign doc key) (hes : doc.entries? = some (before ++ after))
    (hes' : doc'.entries? = some (before ++ (.str key, v) :: after)) :
    SameFields .standard .standard doc doc' := by
  have hcore := Mapping.agreeOn_middle hforeign.core before after v
  have hkind := hcore.get_eq (show "kind" ∈ SchemaCatalog.coreFields by decide)
  have hversion := hcore.get_eq (show "apiVersion" ∈ SchemaCatalog.coreFields by decide)
  have hmetadata := hcore.get_eq (show "metadata" ∈ SchemaCatalog.coreFields by decide)
  refine ⟨?_, fun kind hname => ?_, fun kind es hname hread => ?_⟩
  · simp only [kindOf, hes, hes', hkind]
  · have hpresent : ∀ field ∈ SchemaCatalog.coreFields,
        (before ++ (.str key, v) :: after).has field = (before ++ after).has field :=
      fun _ hfield => hcore.has_eq hfield
    refine SchemaCatalog.validate_congr hes hes' hpresent hversion ?_ ?_ ?_ ?_
    · rw [hkind]
    · rw [hkind]
    · rw [hkind]
    · intro schema hfind
      obtain ⟨_, hnames⟩ := kindOf_eq_ok_iff.mp hname
      cases hes.symm.trans hnames.entries
      obtain rfl := schema_of_names hnames hfind
      exact Schema.check_middle hes hes' (hforeign.required kind hname) (hforeign.field kind hname)
  · cases hes.symm.trans hread
    refine ⟨_, hes', resourceOf_congr doc doc' hversion ?_ ?_⟩
    · rw [metadataOf, metadataOf, hmetadata]
    · exact Mapping.agreeOn_middle (hforeign.content kind hname) before after v

theorem find?_metadata (kind : Kind) :
    Schema.find? (Schema.ofKind kind).fields "metadata" = some Schema.metadata := by
  cases kind <;> rfl

theorem find?_metadataFields (hkey : key ∉ Metadata.keys) :
    Schema.find? [Schema.field "name" .string, Schema.field "namespace" .string, Schema.field "labels" .map,
      Schema.field "annotations" .map] key = none := by
  have hne (other : String) (hother : other ∈ Metadata.keys) : other ≠ key :=
    fun heq => hkey (heq ▸ hother)
  simp [Schema.find?, Schema.field, sameKey, Value.key?, hne "name" (by decide), hne "namespace" (by decide),
    hne "labels" (by decide), hne "annotations" (by decide)]

theorem sameFields_inMetadata (hforeign : key ∉ Metadata.keys) (hes : doc.entries? = some es)
    (hm : es.get? "metadata" = some m) (hfields : m.entries? = some (before ++ after))
    (hfields' : m'.entries? = some (before ++ (.str key, v) :: after))
    (hes' : doc'.entries? = some (es.insert (.str "metadata") m')) :
    SameFields .standard .standard doc doc' := by
  have hget : es.get "metadata" = m := Mapping.get_of_get? hm
  have hget' := Mapping.get_of_get? (Mapping.get?_insert_self es "metadata" m')
  have hothers : Mapping.AgreeOn ["apiVersion", "kind"] es (es.insert (.str "metadata") m') :=
    Mapping.agreeOn_insert (by decide) es m'
  have hversion := hothers.get_eq (show "apiVersion" ∈ _ by simp)
  have hkind := hothers.get_eq (show "kind" ∈ _ by simp)
  refine ⟨?_, fun kind hname => ?_, fun kind es' hname hread => ?_⟩
  · simp only [kindOf, hes, hes', hkind]
  · refine SchemaCatalog.validate_congr hes hes' (fun field _ => Mapping.has_insert hm m' field) hversion
      ?_ ?_ ?_ ?_
    · rw [hkind]
    · rw [hkind]
    · rw [hkind]
    · intro schema hfind
      obtain ⟨_, hnames⟩ := kindOf_eq_ok_iff.mp hname
      cases hes.symm.trans hnames.entries
      obtain rfl := schema_of_names hnames hfind
      refine Schema.check_insert hes hes' hm ?_
      rw [Schema.checkField_of_find? (find?_metadata kind), Schema.checkField_of_find? (find?_metadata kind)]
      have hname : key ∉ ["name"] := fun hmem => hforeign (by simp_all [Metadata.keys])
      exact Schema.check_middle hfields hfields' hname (find?_metadataFields hforeign)
  · cases hes.symm.trans hread
    refine ⟨_, hes', resourceOf_congr doc doc' hversion ?_ ?_⟩
    · refine metadataOf_congr (membersOf_of_entries ?_) (membersOf_of_entries ?_)
        (Mapping.agreeOn_middle hforeign before after v)
      · rwa [hget]
      · rwa [hget']
    · apply Mapping.agreeOn_insert
      cases kind <;> decide

theorem Enlarged.sameFields (h : Enlarged doc doc') : SameFields .standard .standard doc doc' := by
  induction h with
  | refl doc => exact .refl .standard doc
  | atRoot hforeign hes hes' => exact sameFields_atRoot hforeign hes hes'
  | inMetadata hforeign hes hm hfields hfields' hes' =>
    exact sameFields_inMetadata hforeign hes hm hfields hfields' hes'
  | trans _ _ ih ih' => exact ih.trans ih'

/-- The order of entries, at any depth, makes no difference to what a plain manifest decodes to, and neither
do entries under foreign keys to what any manifest decodes to. It may make one to how a manifest is refused:
the first thing that is wrong with it may be one that cannot be written, and then decoding ends in a bad
value. -/
theorem decode_order_free [Yaml.Reader] {bytes bytes' : List UInt8} (source : Option String)
    (hb : States bytes doc) (hb' : States bytes' doc') :
    (doc.Plain → Reordered doc doc' →
      SameOutcome source (fun r s => r.same s = true)
          (decode .standard source bytes) (decode .standard source bytes') ∨
        (∃ f, decode .standard source bytes = .error f) ∧
        (∃ g, decode .standard source bytes' = .error g) ∧
        (Odd .standard doc .badValue ∨ Odd .standard doc' .badValue)) ∧
    (Enlarged doc doc' →
      SameOutcome source (fun r s => s = { r with document := doc' } ∧ (doc.Plain → r.same s = true))
          (decode .standard source bytes) (decode .standard source bytes') ∨
        decode .standard source bytes = .error (.mismatch .badValue) ∧
        decode .standard source bytes' = .error (.mismatch .badValue) ∧ Odd .standard doc .badValue) := by
  rw [hb.decode_eq, hb'.decode_eq]
  constructor
  · intro hplain h
    rcases decodeDocument_reordered source h hplain with hsame | ⟨hf, hg, m, hodd⟩
    · exact .inl hsame
    · refine .inr ⟨hf, hg, hodd.imp (fun hm => ?_) fun hm => ?_⟩ <;> rwa [← (odd_standard.mp hm).1]
  · intro h
    by_cases hodd : ∃ m, Odd .standard doc m
    · obtain ⟨m, hm⟩ := hodd
      obtain ⟨rfl, -⟩ := odd_standard.mp hm
      exact .inr ⟨decodeDocument_odd hm, h.sameFields.decode_odd source hm, hm⟩
    · have houtcome := h.sameFields.sameOutcome_of_not_odd source (not_exists.mp hodd)
      have hself (hplain : doc.Plain) := decodeDocument_reordered source (.refl doc) hplain
      left
      generalize decodeDocument .standard source doc = x, decodeDocument .standard source doc' = y
        at houtcome hself ⊢
      cases houtcome with
      | recognized heq =>
        refine .recognized ⟨heq, fun hplain => ?_⟩
        subst heq
        rcases hself hplain with hsame | ⟨⟨f, hf⟩, -⟩
        · cases hsame with
          | recognized hsame => exact hsame
        · cases hf
      | unrecognized kind => exact .unrecognized kind
      | refused hf hg => exact .refused hf hg

end

/-! A config map, turned around, and with more entries. -/

def mapText : String :=
  "apiVersion: v1\nkind: ConfigMap\nmetadata: {name: a, labels: {b: c}}\n"

def turnedText : String :=
  "metadata: {labels: {b: c}, name: a}\nkind: ConfigMap\napiVersion: v1\n"

def largerText : String :=
  "apiVersion: v1\nkind: ConfigMap\nmetadata: {uid: 7, name: a, labels: {b: c}}\nstatus: []\n"

def named : Value × Value :=
  (.str "name", .str "a")

def labelled : Value × Value :=
  (.str "labels", .map false [(.str "b", .str "c")])

def mapWith (fields : Mapping) : Mapping :=
  [(.str "apiVersion", .str "v1"), (.str "kind", .str "ConfigMap"), (.str "metadata", .map false fields)]

def turned : Mapping :=
  [(.str "metadata", .map false [labelled, named]), (.str "kind", .str "ConfigMap"),
    (.str "apiVersion", .str "v1")]

def larger : Mapping :=
  mapWith [(.str "uid", .int 7), named, labelled] ++ [(.str "status", .list [])]

theorem plain_map : Plain (.map false (mapWith [named, labelled])) := by
  have htext (s : String) : Scalar (.str s) := ⟨[.str s], rfl, by simp⟩
  have hlabels : Plain (.map false [(.str "b", .str "c")]) := by
    refine .map (by simp [Mapping.Distinct]) ?_ ?_ <;> simp [htext, Plain.scalar]
  have hmetadata : Plain (.map false [named, labelled]) := by
    refine .map (by simp [Mapping.Distinct, named, labelled, sameKey, Value.key?]) ?_ ?_ <;>
      simp [named, labelled, htext, hlabels, Plain.scalar]
  refine .map (by simp [Mapping.Distinct, mapWith, sameKey, Value.key?]) ?_ ?_ <;>
    simp [mapWith, htext, hmetadata, Plain.scalar]

theorem turned_reordered : Reordered (.map false (mapWith [named, labelled])) (.map false turned) := by
  have hmetadata : Reordered (.map false [named, labelled]) (.map false [labelled, named]) :=
    .order (.swap labelled named [])
  have hroot : (mapWith [labelled, named]).Perm turned := List.reverse_perm turned
  exact .trans (@Reordered.entry [(.str "apiVersion", .str "v1"), (.str "kind", .str "ConfigMap")] _ _ _ []
    hmetadata) (.order hroot)

theorem larger_enlarged : Enlarged (.map false (mapWith [named, labelled])) (.map false larger) := by
  have hmetadata : Enlarged (.map false (mapWith [named, labelled]))
      (.map false (mapWith [(.str "uid", .int 7), named, labelled])) :=
    @Enlarged.inMetadata _ _ _ _ _ [] "uid" _ _ (by decide) rfl rfl rfl rfl rfl
  have hstatus : Foreign (.map false (mapWith [(.str "uid", .int 7), named, labelled])) "status" := by
    refine ⟨by decide, fun kind _ => ?_, fun kind _ => ?_, fun kind _ => ?_⟩
    · cases kind <;> decide
    · cases kind <;> rfl
    · cases kind <;> decide
  have hroot : Enlarged (.map false (mapWith [(.str "uid", .int 7), named, labelled])) (.map false larger) :=
    @Enlarged.atRoot _ _ (mapWith [(.str "uid", .int 7), named, labelled]) "status" (.list []) []
      hstatus rfl rfl
  exact .trans hmetadata hroot

theorem map_states : States mapText.toUTF8.toList (.map false (mapWith [named, labelled])) :=
  states_of_document mapText (by decide +kernel) (Yaml.documents_of_alike (by decide +kernel)) (by simp)

theorem turned_states : States turnedText.toUTF8.toList (.map false turned) :=
  states_of_document turnedText (by decide +kernel) (Yaml.documents_of_alike (by decide +kernel)) (by simp)

theorem larger_states : States largerText.toUTF8.toList (.map false larger) :=
  states_of_document largerText (by decide +kernel) (Yaml.documents_of_alike (by decide +kernel)) (by simp)

/-- The config map is the same when it is turned around, and when it has more entries. -/
theorem config_map_order_free :
    (States mapText.toUTF8.toList (.map false (mapWith [named, labelled])) ∧
      States turnedText.toUTF8.toList (.map false turned) ∧
      States largerText.toUTF8.toList (.map false larger)) ∧
      ∃ r s t, decode .standard none mapText.toUTF8.toList = .ok (.recognized "config_map" r) ∧
        decode .standard none turnedText.toUTF8.toList = .ok (.recognized "config_map" s) ∧
        decode .standard none largerText.toUTF8.toList = .ok (.recognized "config_map" t) ∧
        r.same s = true ∧ r.same t = true := by
  obtain ⟨hturned, -⟩ := decode_order_free none map_states turned_states
  obtain ⟨-, hlarger⟩ := decode_order_free none map_states larger_states
  have hmap : decode .standard none mapText.toUTF8.toList =
      .ok (.recognized "config_map" ⟨.configMap, "ConfigMap", .str "v1",
        ⟨.str "a", .null, [(.str "b", .str "c")], []⟩, .data [],
        .map false (mapWith [named, labelled])⟩) := by
    rw [map_states.decode_eq]
    rfl
  rw [hmap] at hturned hlarger
  obtain ⟨s, hs, hrs⟩ : ∃ s, _ ∧ _ := by
    rcases hturned plain_map turned_reordered with hsame | ⟨⟨f, hf⟩, -⟩
    · exact hsame.exists_recognized
    · cases hf
  obtain ⟨t, ht, -, hrt⟩ : ∃ s, _ ∧ _ := by
    rcases hlarger larger_enlarged with hmore | ⟨hf, -⟩
    · exact hmore.exists_recognized
    · cases hf
  exact ⟨⟨map_states, turned_states, larger_states⟩, _, s, t, hmap, hs, ht, hrs, hrt plain_map⟩

/-! A config map with two faults, of which one may not be written. -/

def misnamed : Value × Value :=
  (.str "name", .int 5)

def numberLabelled (n : Int) : Value × Value :=
  (.str "labels", .map false [(.int n, .null)])

theorem plain_misnamed (n : Int) : Plain (.map false (mapWith [misnamed, numberLabelled n])) := by
  have htext (s : String) : Scalar (.str s) := ⟨[.str s], rfl, by simp⟩
  have hnumber (k : Int) : Scalar (.int k) := ⟨_, rfl, by simp⟩
  have hnull : Plain .null := .scalar ⟨_, rfl, by simp⟩
  have hlabels : Plain (.map false [(.int n, .null)]) := by
    refine .map (by simp [Mapping.Distinct]) ?_ ?_ <;> simp [hnumber, hnull]
  have hmetadata : Plain (.map false [misnamed, numberLabelled n]) := by
    refine .map (by simp [Mapping.Distinct, misnamed, numberLabelled, sameKey, Value.key?]) ?_ ?_ <;>
      simp [misnamed, numberLabelled, htext, hlabels, Plain.scalar, hnumber]
  refine .map (by simp [Mapping.Distinct, mapWith, sameKey, Value.key?]) ?_ ?_ <;>
    simp [mapWith, htext, hmetadata, Plain.scalar]

theorem misnamed_reordered (n : Int) : Reordered (.map false (mapWith [misnamed, numberLabelled n]))
    (.map false (mapWith [numberLabelled n, misnamed])) :=
  @Reordered.entry [(.str "apiVersion", .str "v1"), (.str "kind", .str "ConfigMap")] _ _ _ []
    (.order (.swap (numberLabelled n) misnamed []))

theorem labelled_refused (n : Int) : ∃ why,
    SchemaCatalog.standard.validate (.map false (mapWith [numberLabelled n, misnamed])) = .ok (some why) ∧
      why.isWritable = (Value.int n).isWritable := by
  refine ⟨_, rfl, ?_⟩
  simp [Rejection.isWritable, Schema.Location.isWritable, Schema.Step.isWritable, Value.isWritable]

/-- The order decides how the config map is refused: for its name, or for a label whose key of 4301 digits
cannot be written. -/
theorem misnamed_order_matters : ¬ ∀ (source : Option String) (doc doc' : Value), doc.Plain →
    Reordered doc doc' → SameOutcome source (fun r s => r.same s = true)
      (decodeDocument .standard source doc) (decodeDocument .standard source doc') := by
  intro hsame
  have hwritable : (Value.int (10 ^ 4300)).isWritable = false := by decide +kernel
  obtain ⟨why, hwhy, hwritten⟩ := labelled_refused (10 ^ 4300)
  have hkind : kindOf (.map false (mapWith [numberLabelled (10 ^ 4300), misnamed])) =
    .ok Kind.configMap.name := rfl
  have hraised := decodeDocument_invalid none hkind hwhy
  rw [hwritten, hwritable] at hraised
  have houtcome := hsame none _ _ (Value.Reordered.plain (misnamed_reordered _) (plain_misnamed _))
    (misnamed_reordered (10 ^ 4300)).symm
  rw [hraised] at houtcome
  exact SameOutcome.not_mismatch houtcome

end Manifest
end StageGate
