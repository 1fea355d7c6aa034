import Mathlib.Data.List.DropRight
import StageGate.Proofs.MappingLookups
import StageGate.Proofs.ReadDocuments
import StageGate.Proofs.RelatedManifests

/-!
Manifests whose kind has blanks around it. Their kind is named without the blanks, but the catalog is asked
for a schema under the text as it stands, so that what is decoded depends on the schema under that text: a
supported kind for which there is none is refused, whatever the manifest says without the blanks.
-/

namespace StageGate

namespace Text

theorem trim_trim (cs : List Char) : trim (trim cs) = trim cs := by
  have htrim (cs : List Char) : trim cs = (cs.dropWhile isBlank).rdropWhile isBlank := rfl
  have hprefix := List.rdropWhile_prefix isBlank (cs.dropWhile isBlank)
  have hfront : (trim cs).dropWhile isBlank = trim cs := by
    rw [List.dropWhile_eq_self_iff]
    intro hne
    -- the first character is the one that the blanks in front have been dropped up to
    have hpos : 0 < (cs.dropWhile isBlank).length := hne.trans_le hprefix.length_le
    have hfirst : (trim cs)[0] = (cs.dropWhile isBlank)[0] := hprefix.getElem hne
    rw [hfirst]
    exact List.dropWhile_get_zero_not isBlank cs _
  rw [htrim (trim cs), hfront, htrim cs, List.rdropWhile_idempotent]

theorem strip_strip (s : String) : strip (strip s) = strip s := by
  simp [strip, trim_trim]

end Text

namespace Schema

theorem check_text (schema : Schema) (place : Location) (s t : String) :
    check schema place (.str s) = check schema place (.str t) := by
  cases schema <;> simp [check, Value.isStr, Value.entries?, Value.items?]

theorem checkField_text (fields : List (Value × Schema)) (place : Location) (key : Value) (s t : String) :
    checkField fields place key (.str s) = checkField fields place key (.str t) := by
  induction fields with
  | nil => rfl
  | cons field fields ih => rw [checkField, checkField, check_text field.2 place s t, ih]

end Schema

namespace Manifest

/-- The second document is the first with its kind's text freed of the blanks around it. -/
structure Strips (s : String) (doc doc' : Value) (es : Mapping) : Prop where
  entries : doc.entries? = some es
  kind : es.get? "kind" = some (.str s)
  stripped : doc'.entries? = some (es.insert (.str "kind") (.str (Text.strip s)))

section
variable {s : String} {doc doc' : Value} {es : Mapping} {catalog catalog' : SchemaCatalog}
  {source : Option String} {bytes bytes' : List UInt8}

/-- A resource is made of nothing but what stands under other keys than that of the kind. -/
theorem agreeOn_insert (kind : Kind) (es : Mapping) (v : Value) :
    Mapping.AgreeOn ("apiVersion" :: "metadata" :: kind.contentKeys) es (es.insert (.str "kind") v) := by
  apply Mapping.agreeOn_insert
  cases kind <;> decide

theorem resourceOf_insert (kind : Kind) (doc doc' : Value) (es : Mapping) (v : Value) :
    resourceOf kind doc' (es.insert (.str "kind") v) =
      (resourceOf kind doc es).map fun r => { r with document := doc' } := by
  have hagree := agreeOn_insert kind es v
  have hmetadata := hagree.get_eq (List.mem_cons_of_mem _ List.mem_cons_self)
  refine resourceOf_congr doc doc' (hagree.get_eq List.mem_cons_self) ?_ fun key hkey => ?_
  · rw [metadataOf, metadataOf, hmetadata]
  · exact hagree key (List.mem_cons_of_mem _ (List.mem_cons_of_mem _ hkey))

theorem get_stripped (es : Mapping) (s : String) :
    (es.insert (.str "kind") (.str (Text.strip s))).get "kind" = .str (Text.strip s) :=
  Mapping.get_of_get? (Mapping.get?_insert_self es "kind" (.str (Text.strip s)))

namespace Strips
variable (h : Strips s doc doc' es)
include h

theorem get_kind : es.get "kind" = .str s :=
  Mapping.get_of_get? h.kind

theorem kindOf_eq : kindOf doc' = kindOf doc := by
  simp only [kindOf, h.entries, h.stripped, h.get_kind, get_stripped, Text.strip_strip]

theorem kindOf_stripped {kind : Kind} (hkind : kind.name = Text.strip s) :
    kindOf doc = .ok kind.name := by
  have hname : Text.strip s ≠ "" := by
    rw [← hkind]
    cases kind <;> decide
  simp [kindOf, h.entries, h.get_kind, hname, hkind]

/-- It is the schema under the text as it stands that decides about the manifest. -/
theorem verdict_eq (hfind : catalog'.find? (.str (Text.strip s)) = catalog.find? (.str s)) :
    (catalog'.validate doc').map (Option.map Rejection.isWritable) =
      (catalog.validate doc).map (Option.map Rejection.isWritable) := by
  have hversion := (agreeOn_insert .pod es (.str (Text.strip s))).get_eq List.mem_cons_self
  have hsame : ∀ field ∈ SchemaCatalog.coreFields,
      (es.insert (.str "kind") (.str (Text.strip s))).has field = es.has field :=
    fun field _ => Mapping.has_insert h.kind _ field
  refine SchemaCatalog.validate_congr h.entries h.stripped hsame hversion ?_ ?_ ?_ fun schema _ => ?_
  · rw [h.get_kind, get_stripped]
    rfl
  · rw [h.get_kind, get_stripped]
    rfl
  · rw [h.get_kind, get_stripped, hfind]
  · exact Schema.check_insert h.entries h.stripped h.kind (Schema.checkField_text ..)

theorem sameFields (hfind : catalog'.find? (.str (Text.strip s)) = catalog.find? (.str s)) :
    SameFields catalog catalog' doc doc' where
  kind := h.kindOf_eq
  verdict _ _ := h.verdict_eq hfind
  made kind es' _ hes := by
    cases h.entries.symm.trans hes
    exact ⟨_, h.stripped, resourceOf_insert kind doc doc' es _⟩

/-- A kind that is supported, but has no schema under the text as it stands, is refused. -/
theorem refused {kind : Kind} (hkind : kind.name = Text.strip s) (hnone : catalog.find? (.str s) = none) :
    ∃ f, decodeDocument catalog source doc = .error f ∧ Names source f := by
  have hname := h.kindOf_stripped hkind
  obtain ⟨verdict, hverdict⟩ := exists_verdict catalog hname
  cases verdict with
  | none =>
    obtain ⟨es', schema, hes, -, -, -, hfind, -⟩ := SchemaCatalog.validate_eq_none_iff.mp hverdict
    cases h.entries.symm.trans hes
    rw [h.get_kind, hnone] at hfind
    cases hfind
  | some why =>
    have hunlisted : catalog.find? (es.get "kind") = none := by rw [h.get_kind, hnone]
    have hwritable : (es.get "kind").isWritable = true := by rw [h.get_kind]; rfl
    have hdecoded := decodeDocument_invalid source hname hverdict
    rw [if_pos (SchemaCatalog.isWritable_of_unlisted h.entries hunlisted hwritable hverdict)] at hdecoded
    exact ⟨_, hdecoded, names_decode _ source⟩

end Strips

/-- Without the blanks around its kind a manifest has the same outcome under a catalog that has the schema
for the kind which the first catalog has under the text as it stands; so it has under one catalog that has
the same under both. What is odd in the manifest ends decoding with and without the blanks.
With a kind that is not supported the outcome is one and the same whatever the catalogs. A supported kind
without a schema under the text as it stands is refused, and the standard catalog has none under any text
with blanks around it. -/
theorem decode_stripped [Yaml.Reader] (source : Option String) (hb : States bytes doc)
    (hb' : States bytes' doc') (h : Strips s doc doc' es) :
    (∀ catalog catalog' : SchemaCatalog,
      catalog'.find? (.str (Text.strip s)) = catalog.find? (.str s) →
        ((∀ m, ¬ Odd catalog doc m) → SameOutcome source (fun r r' => r' = { r with document := doc' })
          (decode catalog source bytes) (decode catalog' source bytes')) ∧
        ∀ m, Odd catalog doc m → decode catalog source bytes = .error (.mismatch m) ∧
          decode catalog' source bytes' = .error (.mismatch m)) ∧
      ((∀ kind : Kind, kind.name ≠ Text.strip s) →
        ∀ catalog catalog', decode catalog' source bytes' = decode catalog source bytes) ∧
      ∀ kind : Kind, kind.name = Text.strip s →
        (∀ catalog, catalog.find? (.str s) = none →
          ∃ f, decode catalog source bytes = .error f ∧ Names source f) ∧
        (Text.strip s ≠ s → ∃ f, decode .standard source bytes = .error f ∧ Names source f) := by
  simp only [hb.decode_eq, hb'.decode_eq]
  refine ⟨fun catalog catalog' hfind => ?_, fun hkind catalog catalog' => ?_, fun kind hkind => ?_⟩
  · have hfields := h.sameFields hfind
    exact ⟨hfields.sameOutcome_of_not_odd source,
      fun m hodd => ⟨decodeDocument_odd hodd, hfields.decode_odd source hodd⟩⟩
  · cases hname : kindOf doc with
    | error why =>
      rw [decodeDocument_kindless catalog source hname,
        decodeDocument_kindless catalog' source (h.kindOf_eq.trans hname)]
    | ok name =>
      obtain ⟨es', hes, s', hs, rfl, -⟩ := kindOf_eq_ok_iff.mp hname
      cases h.entries.symm.trans hes
      cases h.kind.symm.trans hs
      have hnone := Kind.ofName?_eq_none.mpr hkind
      rw [decodeDocument_unsupported catalog source hname hnone,
        decodeDocument_unsupported catalog' source (h.kindOf_eq.trans hname) hnone]
  · refine ⟨fun catalog hnone => h.refused hkind hnone, fun hpadded => h.refused hkind ?_⟩
    rw [Option.eq_none_iff_forall_ne_some]
    intro schema hfind
    obtain ⟨kind', rfl, -⟩ := SchemaCatalog.find?_standard hfind
    exact hpadded (Kind.strip_name kind')

end

/-! A namespace whose kind has a blank in front. -/

def namespaceText (kind : String) : String :=
  "apiVersion: v1\nkind: " ++ kind ++ "\nmetadata:\n  name: a\n"

def namespaceEntries (kind : String) : Mapping := [
  (.str "apiVersion", .str "v1"), (.str "kind", .str kind),
  (.str "metadata", .map false [(.str "name", .str "a")])]

theorem padded_states :
    States (namespaceText "' Namespace'").toUTF8.toList (.map false (namespaceEntries " Namespace")) :=
  states_of_document (namespaceText "' Namespace'") (by decide +kernel)
    (Yaml.documents_of_alike (by decide +kernel)) (by simp)

theorem plain_states :
    States (namespaceText "Namespace").toUTF8.toList (.map false (namespaceEntries "Namespace")) :=
  states_of_document (namespaceText "Namespace") (by decide +kernel)
    (Yaml.documents_of_alike (by decide +kernel)) (by simp)

/-- A catalog that knows namespaces with and without the blank. -/
def patientCatalog : SchemaCatalog :=
  (.str " Namespace", Schema.free) :: SchemaCatalog.standard

theorem padded_strips : Strips " Namespace" (.map false (namespaceEntries " Namespace"))
    (.map false (namespaceEntries "Namespace")) (namespaceEntries " Namespace") := by
  refine ⟨rfl, rfl, ?_⟩
  have hstrip : Text.strip " Namespace" = "Namespace" := by decide
  rw [hstrip]
  rfl

/-- Under the patient catalog the blank makes no difference, and under the standard catalog it does. -/
theorem padded_namespace_refused :
    States (namespaceText "' Namespace'").toUTF8.toList (.map false (namespaceEntries " Namespace")) ∧
      States (namespaceText "Namespace").toUTF8.toList (.map false (namespaceEntries "Namespace")) ∧
      Strips " Namespace" (.map false (namespaceEntries " Namespace"))
        (.map false (namespaceEntries "Namespace")) (namespaceEntries " Namespace") ∧
      (∃ r, decode patientCatalog none (namespaceText "' Namespace'").toUTF8.toList =
          .ok (.recognized "namespace" r) ∧
        decode patientCatalog none (namespaceText "Namespace").toUTF8.toList =
          .ok (.recognized "namespace" { r with document := .map false (namespaceEntries "Namespace") })) ∧
      ∃ f, decode .standard none (namespaceText "' Namespace'").toUTF8.toList = .error f ∧ Names none f := by
  have hstrip : Text.strip " Namespace" = "Namespace" := by decide
  obtain ⟨hsame, -, hsupported⟩ := decode_stripped none padded_states plain_states padded_strips
  obtain ⟨-, hrefused⟩ := hsupported .nameSpace (by decide)
  have hfind : patientCatalog.find? (.str (Text.strip " Namespace")) =
      patientCatalog.find? (.str " Namespace") := by
    rw [hstrip]
    rfl
  have hodd : ∀ m, ¬ Odd patientCatalog (.map false (namespaceEntries " Namespace")) m := by
    intro m hodd
    cases (decodeDocument_odd hodd : decodeDocument patientCatalog none _ = _)
  have hdecoded : decode patientCatalog none (namespaceText "' Namespace'").toUTF8.toList =
      .ok (.recognized "namespace" ⟨.nameSpace, "Namespace", .str "v1", ⟨.str "a", .null, [], []⟩, .bare,
        .map false (namespaceEntries " Namespace")⟩) := by
    rw [padded_states.decode_eq]
    rfl
  have houtcome := (hsame patientCatalog patientCatalog hfind).1 hodd
  rw [hdecoded] at houtcome
  obtain ⟨_, hplain, rfl⟩ := houtcome.exists_recognized
  exact ⟨padded_states, plain_states, padded_strips, ⟨_, hdecoded, hplain⟩, hrefused (by decide)⟩

/-- Under the standard catalog the manifest with the blank is refused, and without it it is not. -/
theorem padded_namespace_differs :
    States (namespaceText "' Namespace'").toUTF8.toList (.map false (namespaceEntries " Namespace")) ∧
      States (namespaceText "Namespace").toUTF8.toList (.map false (namespaceEntries "Namespace")) ∧
      Strips " Namespace" (.map false (namespaceEntries " Namespace"))
        (.map false (namespaceEntries "Namespace")) (namespaceEntries " Namespace") ∧
      ∀ same, ¬ SameOutcome (some "a.yaml") same
        (decode .standard (some "a.yaml") (namespaceText "' Namespace'").toUTF8.toList)
        (decode .standard (some "a.yaml") (namespaceText "Namespace").toUTF8.toList) := by
  refine ⟨padded_states, plain_states, padded_strips, fun same hsame => ?_⟩
  have hpadded : decode .standard (some "a.yaml") (namespaceText "' Namespace'").toUTF8.toList =
      .error (.decode (.rejected .nameSpace (.unknownKind (.str " Namespace"))) (some "a.yaml")) := by
    rw [padded_states.decode_eq]
    rfl
  have hplain : decode .standard (some "a.yaml") (namespaceText "Namespace").toUTF8.toList =
      .ok (.recognized "namespace" ⟨.nameSpace, "Namespace", .str "v1", ⟨.str "a", .null, [], []⟩, .bare,
        .map false (namespaceEntries "Namespace")⟩) := by
    rw [plain_states.decode_eq]
    rfl
  rw [hpadded, hplain] at hsame
  cases hsame

end Manifest
end StageGate
