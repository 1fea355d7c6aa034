import StageGate.Proofs.DecodedMetadata

/-!
The faults of decoding. The main result says which manifests are refused with a fault that names their
source, and which are not: those whose text holds a scalar or a key that does not fit its type, those whose
refusal names an integer with too many digits to be written, and those that a lax catalog lets through with
metadata that are no mapping or with such an integer for a name.
-/

namespace StageGate

namespace Manifest

/-- The mismatches that are reported as a fault of the manifest. -/
def Reported (m : Mismatch) : Prop :=
  m = .wrongType ∨ m = .badValue

theorem pairOf_failsOnly (v : Value) : FailsOnly Reported (pairOf v) := by
  unfold pairOf
  split
  · exact .error (.inl rfl)
  · split
    · exact .ok _
    · exact .error (.inl rfl)
  · exact .error (.inr rfl)

theorem mappingOf_failsOnly (v : Value) : FailsOnly Reported (mappingOf v) := by
  unfold mappingOf
  split
  · exact .ok _
  · split
    · exact .ok _
    · exact .error (.inl rfl)
    · exact .foldlM (fun m v => (pairOf_failsOnly v).bind fun kw _ => .ok _) _ _

theorem listOf_failsOnly (v : Value) : FailsOnly Reported (listOf v) := by
  unfold listOf
  split
  · exact .ok _
  · split
    · exact .ok _
    · exact .error (.inl rfl)

theorem contentOf_failsOnly (kind : Kind) (es : Mapping) : FailsOnly Reported (contentOf kind es) := by
  unfold contentOf
  split
  · exact .ok _
  · exact .ok _
  · exact (listOf_failsOnly _).map _
  · exact (listOf_failsOnly _).map _
  · exact (mappingOf_failsOnly _).bind fun roleRef _ => (listOf_failsOnly _).bind fun subjects _ => .ok _
  · exact (mappingOf_failsOnly _).bind fun roleRef _ => (listOf_failsOnly _).bind fun subjects _ => .ok _
  · exact (mappingOf_failsOnly _).map _
  · exact (mappingOf_failsOnly _).map _
  · exact (mappingOf_failsOnly _).map _
  · exact (mappingOf_failsOnly _).map _
  · exact (listOf_failsOnly _).bind fun users _ => .ok _

theorem membersOf_eq_error {v : Value} {m : Mismatch} :
    membersOf v = .error m ↔ m = .noSuchMember ∧ v.isPresent = true ∧ v.entries? = none := by
  unfold membersOf
  cases v.isPresent with
  | false => simp
  | true => cases v.entries? <;> simp [eq_comm]

theorem metadataOf_failsOnly {es fields : Mapping} (hmembers : membersOf (es.get "metadata") = .ok fields) :
    FailsOnly Reported (metadataOf es) := by
  unfold metadataOf
  rw [hmembers]
  exact (mappingOf_failsOnly (fields.get "labels")).bind fun labels _ =>
    (mappingOf_failsOnly (fields.get "annotations")).bind fun annotations _ => .ok _

theorem resourceOf_failsOnly {es fields : Mapping} (kind : Kind) (doc : Value)
    (hmembers : membersOf (es.get "metadata") = .ok fields) :
    FailsOnly Reported (resourceOf kind doc es) := by
  unfold resourceOf
  exact (metadataOf_failsOnly hmembers).bind fun metadata _ =>
    (contentOf_failsOnly kind es).bind fun content _ => .ok _

theorem resourceOf_of_error {es : Mapping} {m : Mismatch} (kind : Kind) (doc : Value)
    (hmembers : membersOf (es.get "metadata") = .error m) :
    resourceOf kind doc es = .error m := by
  unfold resourceOf metadataOf
  rw [hmembers]
  rfl

variable {catalog : SchemaCatalog} {source : Option String} {bytes : List UInt8} {doc : Value}
  {m : Mismatch} {f : Fault}

/-- A document that states its kind has a verdict. -/
theorem exists_verdict (catalog : SchemaCatalog) {name : String} (hname : kindOf doc = .ok name) :
    ∃ verdict, catalog.validate doc = .ok verdict := by
  obtain ⟨es, s, hes, hkind⟩ := kindOf_eq_ok hname
  refine SchemaCatalog.exists_verdict catalog fun es' hes' => ?_
  cases hes.symm.trans hes'
  simp [hkind, Value.key?]

/-- The document states a kind that is supported. -/
def Supported (doc : Value) : Prop :=
  ∃ name kind, kindOf doc = .ok name ∧ Kind.ofName? name = some kind

/-- What ends the decoding of a document with a fault that does not name the source. -/
inductive Odd (catalog : SchemaCatalog) (doc : Value) : Mismatch → Prop where
  /-- The document is valid under the catalog, and its metadata is something else than a mapping. -/
  | metadata {es} (hsupported : Supported doc) (hvalid : catalog.validate doc = .ok none)
      (hes : doc.entries? = some es) (hpresent : (es.get "metadata").isPresent = true)
      (hentries : (es.get "metadata").entries? = none) : Odd catalog doc .noSuchMember
  /-- The document is refused for a reason that cannot be written. -/
  | refusal {why} (hsupported : Supported doc) (hwhy : catalog.validate doc = .ok (some why))
      (hwritable : why.isWritable = false) : Odd catalog doc .badValue
  /-- The document declares a resource with a name that cannot be written. -/
  | name {name kind es r} (hname : kindOf doc = .ok name) (hkind : Kind.ofName? name = some kind)
      (hvalid : catalog.validate doc = .ok none) (hes : doc.entries? = some es)
      (hr : resourceOf kind doc es = .ok r) (hwritable : r.name.isWritable = false) :
      Odd catalog doc .badValue

theorem Odd.supported (hodd : Odd catalog doc m) : Supported doc := by
  cases hodd with
  | metadata hsupported => exact hsupported
  | refusal hsupported => exact hsupported
  | name hname hkind => exact ⟨_, _, hname, hkind⟩

/-- A fault of decoding that names the source, in its message too if the source is not empty. -/
structure Names (source : Option String) (f : Fault) : Prop where
  isDecode : f.isDecode = true
  title : f.title = "DecodeError"
  message : ∀ s, source = some s → s ≠ "" → ∃ rest, f.message = s ++ ": " ++ rest
  source : f.source? = source

theorem names_decode (why : DecodeCause) (source : Option String) :
    Names source (.decode why source) where
  isDecode := rfl
  title := rfl
  source := rfl
  message := by
    rintro s rfl hs
    refine ⟨why.message, ?_⟩
    change Fault.withSource (some s) why.message = _
    simp [Fault.withSource, hs]

theorem not_names_mismatch (source : Option String) : ¬ Names source (.mismatch m) := by
  rintro ⟨⟨⟩⟩

theorem unfit_names (source : Option String) (kind : Kind) (hm : Reported m) :
    Names source (unfit source kind m) := by
  rcases hm with rfl | rfl
  · exact names_decode _ source
  · exact names_decode _ source

theorem decodeDocument_odd (hodd : Odd catalog doc m) :
    decodeDocument catalog source doc = .error (.mismatch m) := by
  unfold decodeDocument
  cases hodd with
  | metadata hsupported hvalid hes hpresent hentries =>
    obtain ⟨name, kind, hname, hkind⟩ := hsupported
    have hmembers := membersOf_eq_error.mpr ⟨rfl, hpresent, hentries⟩
    simp [hname, hkind, SchemaCatalog.verdict_eq_none.mpr hvalid, hes, resourceOf_of_error kind doc hmembers,
      unfit, bind, Except.bind]
  | refusal hsupported hwhy hwritable =>
    obtain ⟨name, kind, hname, hkind⟩ := hsupported
    have hverdict := SchemaCatalog.verdict_eq_error.mpr (.inr ⟨rfl, _, hwhy, hwritable⟩)
    simp [hname, hkind, hverdict, bind, Except.bind]
  | name hname hkind hvalid hes hr hwritable =>
    simp [hname, hkind, SchemaCatalog.verdict_eq_none.mpr hvalid, hes, hr, hwritable, bind, Except.bind]

theorem decodeDocument_failsOnly (hodd : ∀ m, ¬ Odd catalog doc m) :
    FailsOnly (Names source) (decodeDocument catalog source doc) := by
  -- Of the mismatches that are not wrapped, the verdict has none, as the kind is a text and a refusal can be
  -- written, and the resource has none, as the metadata of a valid document is a mapping.
  unfold decodeDocument
  refine .bind (.mapError fun why _ => names_decode why source) fun name hname => ?_
  have hkindOf := mapError_eq_ok.mp hname
  cases hkind : Kind.ofName? name with
  | none => exact .ok _
  | some kind =>
    obtain ⟨verdict, hvalidate⟩ := exists_verdict catalog hkindOf
    obtain ⟨es, s, hes, -⟩ := kindOf_eq_ok hkindOf
    cases verdict with
    | some why =>
      cases hwritable : why.isWritable with
      | false => exact absurd (.refusal ⟨name, kind, hkindOf, hkind⟩ hvalidate hwritable) (hodd _)
      | true =>
        rw [SchemaCatalog.verdict_eq_some.mpr ⟨hvalidate, hwritable⟩]
        exact .error (names_decode _ source)
    | none =>
      have hmembers : ∃ fields, membersOf (es.get "metadata") = .ok fields := by
        cases hmembers : membersOf (es.get "metadata") with
        | ok fields => exact ⟨fields, rfl⟩
        | error m =>
          obtain ⟨-, hpresent, hentries⟩ := membersOf_eq_error.mp hmembers
          exact absurd (.metadata ⟨name, kind, hkindOf, hkind⟩ hvalidate hes hpresent hentries) (hodd _)
      obtain ⟨fields, hfields⟩ := hmembers
      have hresource : FailsOnly (Names source)
          ((resourceOf kind doc es).mapError (unfit source kind)) := .mapError fun m hm =>
        unfit_names source kind (resourceOf_failsOnly kind doc hfields m hm)
      rw [SchemaCatalog.verdict_eq_none.mpr hvalidate, hes]
      refine hresource.bind fun r hr => ?_
      cases hwritable : r.name.isWritable with
      | false => exact absurd (.name hkindOf hkind hvalidate hes (mapError_eq_ok.mp hr) hwritable) (hodd _)
      | true => exact .ok _

section
variable [Yaml.Reader]

/-- What is no fault that names the source comes out of the reading of the documents, or out of a document
that is odd. -/
inductive Escapes (catalog : SchemaCatalog) (bytes : List UInt8) : Mismatch → Prop where
  | unread {text m} (htext : unmarkedTextOf? bytes = some text)
      (hread : Yaml.Reader.documents text = .error (.mismatch m)) : Escapes catalog bytes m
  | odd {text docs doc m} (htext : unmarkedTextOf? bytes = some text)
      (hread : Yaml.Reader.documents text = .ok docs) (hone : docs.filter (!isNull ·) = [doc])
      (hodd : Odd catalog doc m) : Escapes catalog bytes m

theorem decode_of_escapes (source : Option String) (hm : Escapes catalog bytes m) :
    decode catalog source bytes = .error (.mismatch m) := by
  unfold decode documentsOf
  cases hm with
  | unread htext hread => simp [htext, hread, refused, bind, Except.bind]
  | odd htext hread hone hodd =>
    simp [htext, hread, bind, Except.bind, decodeDocuments, hone, decodeDocument_odd hodd]

theorem decode_failsOnly (source : Option String) (hescape : ∀ m, ¬ Escapes catalog bytes m) :
    FailsOnly (Names source) (decode catalog source bytes) := by
  unfold decode documentsOf
  cases htext : unmarkedTextOf? bytes with
  | none => exact .error (names_decode _ source)
  | some text =>
    dsimp only
    cases hread : Yaml.Reader.documents text with
    | error why =>
      cases why with
      | malformed => exact .error (names_decode .malformed source)
      | mismatch m => exact absurd (.unread htext hread) (hescape m)
    | ok docs =>
      change FailsOnly (Names source) (decodeDocuments catalog source docs)
      unfold decodeDocuments
      split
      · exact .error (names_decode _ source)
      · rename_i doc hone
        exact decodeDocument_failsOnly fun m hodd => hescape m (.odd htext hread hone hodd)
      · exact .error (names_decode _ source)

theorem decode_cases (catalog : SchemaCatalog) (source : Option String) (bytes : List UInt8) :
    (∃ m, Escapes catalog bytes m ∧ decode catalog source bytes = .error (.mismatch m)) ∨
      FailsOnly (Names source) (decode catalog source bytes) := by
  by_cases hescape : ∃ m, Escapes catalog bytes m
  · obtain ⟨m, hm⟩ := hescape
    exact .inl ⟨m, hm, decode_of_escapes source hm⟩
  · exact .inr (decode_failsOnly source (not_exists.mp hescape))

theorem decode_eq_mismatch :
    decode catalog source bytes = .error (.mismatch m) ↔ Escapes catalog bytes m := by
  refine ⟨fun hm => ?_, decode_of_escapes source⟩
  rcases decode_cases catalog source bytes with ⟨m', hescape, hm'⟩ | hnames
  · cases hm.symm.trans hm'
    exact hescape
  · exact absurd (hnames _ hm) (not_names_mismatch source)

theorem decode_fault (hf : decode catalog source bytes = .error f) :
    Names source f ∨ ∃ m, f = .mismatch m := by
  rcases decode_cases catalog source bytes with ⟨m, -, hm⟩ | hnames
  · cases hf.symm.trans hm
    exact .inr ⟨m, rfl⟩
  · exact .inl (hnames f hf)

end

/-! Under the standard catalog. -/

/-- Under the standard catalog only a refusal is odd, where it cannot be written. -/
theorem odd_standard : Odd .standard doc m ↔
    m = .badValue ∧ Supported doc ∧
      ∃ why, SchemaCatalog.standard.validate doc = .ok (some why) ∧ why.isWritable = false := by
  constructor
  · intro hodd
    cases hodd with
    | metadata _ hvalid hes _ hentries =>
      obtain ⟨es', hes', hmetadata⟩ := metadata_checked hvalid
      cases hes.symm.trans hes'
      obtain ⟨fields, hfields, -⟩ := metadata_fields hmetadata
      simp [hentries] at hfields
    | refusal hsupported hwhy hwritable => exact ⟨rfl, hsupported, _, hwhy, hwritable⟩
    | name _ _ hvalid hes hr hwritable =>
      cases hwritable.symm.trans (resourceOf_textual hvalid hes hr).isWritable
  · rintro ⟨rfl, hsupported, why, hwhy, hwritable⟩
    exact .refusal hsupported hwhy hwritable

/-- Whether a computation ends in the mismatch. -/
def endsIn {α : Type} (m : Mismatch) : Except Fault α → Bool
  | .error (.mismatch m') => m' == m
  | _ => false

theorem endsIn_iff {α : Type} {x : Except Fault α} : endsIn m x = true ↔ x = .error (.mismatch m) := by
  constructor
  · intro hx
    unfold endsIn at hx
    split at hx
    · rw [beq_iff_eq.mp hx]
    · simp at hx
  · rintro rfl
    simp [endsIn]

/-- A manifest with a date that no calendar has. -/
def impossibleDate : List UInt8 :=
  "apiVersion: v1\nkind: Namespace\nmetadata:\n  name: a\nwhen: 2020-02-30\n".toUTF8.toList

end Manifest
end StageGate
