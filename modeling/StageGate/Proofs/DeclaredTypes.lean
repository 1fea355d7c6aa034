import StageGate.Proofs.ReadDocuments
import StageGate.Proofs.RelatedManifests

/-!
The types that resources are declared with. The schema of each kind asks for them, part by part, and a part
that is left out has a default of its type; so what is decoded under the standard catalog has them. Only the
users of security constraints are not looked at, and they may be anything.
-/

namespace StageGate

/-- Text under text. -/
def Mapping.Texts (m : Mapping) : Prop :=
  ∀ key v, (key, v) ∈ m → ∃ k t, key = .str k ∧ v = .str t

theorem Value.isMap_of_entries {v : Value} {es : Mapping} (hes : v.entries? = some es) :
    v.isMap = true := by
  cases v <;> simp_all [entries?, isMap]

/-- A name that is text, a namespace that is text or absent, and labels and annotations of text. -/
structure Metadata.Declared (m : Metadata) : Prop extends m.Textual where
  labels : m.labels.Texts
  annotations : m.annotations.Texts

/-- The declared types of what a resource of the kind holds beside its metadata. -/
inductive Content.Declared : Kind → Content → Prop where
  | bare {kind} (hkind : kind = .nameSpace ∨ kind = .serviceAccount) : Declared kind .bare
  | rules {kind rules} (hkind : kind = .role ∨ kind = .clusterRole)
      (hrules : ∀ rule ∈ rules, rule.isMap = true) : Declared kind (.rules rules)
  | binding {kind roleRef subjects} (hkind : kind = .roleBinding ∨ kind = .clusterRoleBinding)
      (hsubjects : ∀ subject ∈ subjects, subject.isMap = true) : Declared kind (.binding roleRef subjects)
  | data {data} (hdata : data.Texts) : Declared .configMap (.data data)
  | spec {kind spec} (hkind : kind = .daemonSet ∨ kind = .pod ∨ kind = .service) :
      Declared kind (.spec spec)
  | constraints {users privileged} (husers : ∀ user ∈ users, ∃ s, user = .str s) :
      Declared .securityConstraints (.constraints users privileged)

/-- The declared types of a resource. -/
structure Resource.Declared (r : Resource) : Prop where
  apiVersion : ∃ s, r.apiVersion = .str s
  metadata : r.metadata.Declared
  content : r.content.Declared r.kind

namespace Manifest
variable {es : Mapping} {key : String} {gap : Gap} {place : Schema.Location}

/-- A map of text that is read is one. -/
theorem Holds.texts {m : Mapping} (hm : Holds Value.entries? [] gap es key m)
    (hcheck : es.has key = true → Schema.map.check place (es.get key) = none) : m.Texts := by
  cases hm with
  | leftOut => simp [Mapping.Texts]
  | stated hv hm =>
    have hcheck := hcheck (by simp [Mapping.has, hv])
    rw [Mapping.get_of_get? hv] at hcheck
    rcases Schema.check_map_eq_none_iff.mp hcheck with rfl | ⟨m', hm', htexts⟩
    · simp [Value.entries?] at hm
    · cases hm.symm.trans hm'
      exact htexts

/-- A list of mappings that is read is one. -/
theorem Holds.maps {vs : List Value} {required : List String} {fields : List (Value × Schema)}
    (hvs : Holds Value.items? [] gap es key vs)
    (hcheck : es.has key = true →
      (Schema.array (.object required fields)).check place (es.get key) = none) :
    ∀ v ∈ vs, v.isMap = true := by
  cases hvs with
  | leftOut => simp
  | stated hv hvs =>
    have hcheck := hcheck (by simp [Mapping.has, hv])
    rw [Mapping.get_of_get? hv] at hcheck
    obtain ⟨vs', hvs', hitems⟩ := Schema.check_array_eq_none_iff.mp hcheck
    cases hvs.symm.trans hvs'
    intro v hmem
    obtain ⟨i, hi⟩ := List.mem_iff_getElem?.mp hmem
    obtain ⟨fields, hfields, -⟩ := Schema.check_object_eq_none_iff.mp (hitems i v hi)
    exact Value.isMap_of_entries hfields

theorem ReadsMetadata.texts {v : Value} {m : Metadata} (hm : ReadsMetadata es m)
    (hes : v.entries? = some es) (hcheck : Schema.metadata.check place v = none) :
    m.labels.Texts ∧ m.annotations.Texts :=
  ⟨hm.labels.texts (Schema.field_checked hcheck hes rfl),
    hm.annotations.texts (Schema.field_checked hcheck hes rfl)⟩

/-- What the schema of a kind lets through is read with the declared types, users apart. -/
theorem ReadsContent.declared {doc : Value} {kind : Kind} {c : Content} (hc : ReadsContent es kind c)
    (hcheck : (Schema.ofKind kind).check doc = none) (hes : doc.entries? = some es) :
    c.Declared kind ∨ ∃ users privileged, kind = .securityConstraints ∧
      c = .constraints users privileged ∧ ∃ user ∈ users, ∀ s, user ≠ .str s := by
  cases hc with
  | bare hkind => exact .inl (.bare hkind)
  | rules hkind hrules =>
    refine .inl (.rules hkind ?_)
    rcases hkind with rfl | rfl <;> exact hrules.maps (Schema.field_checked hcheck hes rfl)
  | binding hkind _ hsubjects =>
    refine .inl (.binding hkind ?_)
    rcases hkind with rfl | rfl <;> exact hsubjects.maps (Schema.field_checked hcheck hes rfl)
  | data hdata => exact .inl (.data (hdata.texts (Schema.field_checked hcheck hes rfl)))
  | workload hkind => exact .inl (.spec (hkind.imp_right .inl))
  | service => exact .inl (.spec (.inr (.inr rfl)))
  | @constraints users privileged =>
    by_cases husers : ∀ user ∈ users, ∃ s, user = .str s
    · exact .inl (.constraints husers)
    · simp only [not_forall, not_exists] at husers
      obtain ⟨user, huser, hother⟩ := husers
      exact .inr ⟨users, privileged, rfl, rfl, user, huser, hother⟩

/-- What is decoded under the standard catalog has text for its version, metadata of the declared types, and
content of the declared types too, but for the users of security constraints: some of them may be no text. -/
theorem decode_declared [Yaml.Reader] {source : Option String} {bytes : List UInt8} {slot : String}
    {r : Resource} (hr : decode .standard source bytes = .ok (.recognized slot r)) :
    (∃ s, r.apiVersion = .str s) ∧ r.metadata.Declared ∧
      (r.content.Declared r.kind ∨ ∃ users privileged, r.kind = .securityConstraints ∧
        r.content = .constraints users privileged ∧ ∃ user ∈ users, ∀ s, user ≠ .str s) := by
  obtain ⟨doc, hdoc⟩ := decode_recognized hr
  obtain ⟨hvalid, ⟨kind, es, hname, hes, hmade, -⟩, -⟩ := decodeDocument_eq_recognized.mp hdoc
  obtain ⟨es', hnames⟩ := kindOf_eq_ok_iff.mp hname
  cases hes.symm.trans hnames.entries
  obtain ⟨r', hr'⟩ := exists_madeFrom hnames hvalid
  cases hmade.symm.trans hr'.resourceOf_eq
  obtain ⟨-, hcheck⟩ := checked_of_valid hnames hvalid
  obtain ⟨rfl, -, hversion, ⟨fields, hfields, hmetadata⟩, hcontent, -⟩ := hr'
  have htext : ∃ s, r.apiVersion = .str s := by
    obtain ⟨es', -, hes', -, htext, -⟩ := SchemaCatalog.validate_eq_none_iff.mp hvalid
    cases hes.symm.trans hes'
    rwa [Mapping.get_of_get? hversion, Value.isStr_iff] at htext
  obtain ⟨es', hes', hchecked⟩ := metadata_checked hvalid
  cases hes.symm.trans hes'
  obtain ⟨hlabels, hannotations⟩ := hmetadata.texts hfields hchecked
  exact ⟨htext, ⟨decode_textual hr, hlabels, hannotations⟩, hcontent.declared hcheck hes⟩

/-! Security constraints with a number among their users. -/

def numberedText : String :=
  "apiVersion: v1\nkind: SecurityContextConstraints\nmetadata:\n  name: a\nusers: [b, 1]\n"

def numberedDocument : Value :=
  .map false [(.str "apiVersion", .str "v1"), (.str "kind", .str "SecurityContextConstraints"),
    (.str "metadata", .map false [(.str "name", .str "a")]), (.str "users", .list [.str "b", .int 1])]

def numberedConstraints : Resource :=
  ⟨.securityConstraints, "SecurityContextConstraints", .str "v1", ⟨.str "a", .null, [], []⟩,
    .constraints [.str "b", .int 1] false, numberedDocument⟩

theorem numbered_decoded (source : Option String) :
    decode .standard source numberedText.toUTF8.toList =
      .ok (.recognized "security_context_constraints" numberedConstraints) := by
  have hstates : States numberedText.toUTF8.toList numberedDocument :=
    states_of_document numberedText (by decide +kernel) (Yaml.documents_of_alike (by decide +kernel))
      (by simp [numberedDocument])
  rw [hstates.decode_eq]
  rfl

/-- Its version and metadata are as declared, and a user is not. -/
theorem numbered_metadata_declared :
    decode .standard none numberedText.toUTF8.toList =
      .ok (.recognized "security_context_constraints" numberedConstraints) ∧
      (∃ s, numberedConstraints.apiVersion = .str s) ∧ numberedConstraints.metadata.Declared ∧
      (numberedConstraints.content.Declared .securityConstraints ∨
        ∃ users privileged, Kind.securityConstraints = .securityConstraints ∧
          numberedConstraints.content = .constraints users privileged ∧
          ∃ user ∈ users, ∀ s, user ≠ .str s) :=
  ⟨numbered_decoded none, decode_declared (numbered_decoded none)⟩

/-- One of its users is no text, and it is decoded all the same. -/
theorem numbered_users_decoded :
    ¬ ∀ source bytes slot r, decode .standard source bytes = .ok (.recognized slot r) → r.Declared := by
  intro hdeclared
  have hcontent := (hdeclared none _ _ _ (numbered_decoded none)).content
  cases hcontent with
  | constraints husers =>
    obtain ⟨s, hs⟩ := husers (.int 1) (by simp)
    cases hs

end Manifest
end StageGate
