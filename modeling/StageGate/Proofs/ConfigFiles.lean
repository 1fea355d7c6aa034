import StageGate.Proofs.DecodeFaults
import StageGate.Proofs.ReadDocuments
import StageGate.Proofs.ValidConfigs

/-!
What a configuration file comes to. It states the defaults where it has no document or a null one, and what
its document sets where that is a valid mapping. All else is refused, with two gaps: a document that is empty
without being a mapping passes for none, and a file that is no text, has a scalar or key that does not fit its
type, or has an unknown key that cannot be written, fails without being refused as a configuration.
-/

namespace StageGate

namespace Config

/-- The bytes at the path are a text. -/
def HasText (files : Files.Tree) (path text : String) : Prop :=
  ∃ bytes, files.read path = .ok bytes ∧ Manifest.textOf? bytes = some text

/-- The only document of the file, which is null where there is none. -/
def HasDocument [Yaml.Reader] (files : Files.Tree) (path : String) (v : Value) : Prop :=
  ∃ text, HasText files path text ∧
    (Yaml.Reader.documents text = .ok [v] ∨ Yaml.Reader.documents text = .ok [] ∧ v = .null)

/-- The bytes at the path are no text. -/
def Undecodable (files : Files.Tree) (path : String) : Prop :=
  ∃ bytes, files.read path = .ok bytes ∧ Manifest.textOf? bytes = none

/-- A scalar or key of the only document does not fit its type. -/
def Unfit [Yaml.Reader] (files : Files.Tree) (path : String) (m : Mismatch) : Prop :=
  ∃ text, HasText files path text ∧ Yaml.Reader.only text = .error (.mismatch m)

/-- The first thing wrong with the only document is an unknown key that cannot be written. -/
def Untold [Yaml.Reader] (files : Files.Tree) (path : String) : Prop :=
  ∃ v key, HasDocument files path v ∧ RefusedFor v (.unknownKey key) ∧ key.isWritable = false

/-- Something empty, false or zero that is neither null nor a mapping. -/
structure Hollow (v : Value) : Prop where
  absent : v.isPresent = false
  notNull : v ≠ .null
  notMapping : v.entries? = none

/-- What a document states as a configuration. -/
inductive Stated (v : Value) : Config → Prop where
  | null (hv : v = .null) : Stated v standard
  | settings {es c} (hes : v.entries? = some es) (hvalid : Valid es) (hstates : States es c) : Stated v c
  | hollow (hv : Hollow v) : Stated v standard

/-- Why a file states no configuration. -/
inductive FileFails [Yaml.Reader] (files : Files.Tree) (path : String) : Fault → Prop where
  | unreadable {why} (hread : files.read path = .error why) :
      FileFails files path (.config (.unreadable path why))
  | undecodable (hbytes : Undecodable files path) : FileFails files path (.mismatch .badEncoding)
  | malformed {text} (htext : HasText files path text)
      (hmalformed : Yaml.Reader.only text = .error .malformed) :
      FileFails files path (.config (.malformed path))
  | unfit {m} (hunfit : Unfit files path m) : FileFails files path (.mismatch m)
  | untold (huntold : Untold files path) : FileFails files path (.mismatch .badValue)
  | refused {v why} (hv : HasDocument files path v) (hnull : v ≠ .null) (hfull : ¬ Hollow v)
      (hwhy : RefusedFor v why) (htold : ∀ key, why = .unknownKey key → key.isWritable = true) :
      FileFails files path (.config why)

/-! Documents. -/

variable {files : Files.Tree} {path text : String} {v : Value} {es : Mapping} {c c' : Config}
  {why : ConfigCause} {f : Fault}

theorem Sets.unique {α : Type} {view : α → Value} {default a b : α} {given : Option Value}
    (hview : Function.Injective view) (ha : Sets view default given a) (hb : Sets view default given b) :
    a = b := by
  cases ha with
  | absent =>
    cases hb
    rfl
  | given =>
    rcases hb.given_or_absent with hsame | ⟨hnone, -⟩
    · exact hview (Option.some.inj hsame)
    · cases hnone

theorem States.unique (hc : States es c) (hc' : States es c') : c = c' := by
  have htext : Function.Injective Value.str := fun _ _ => Value.str.inj
  have hassets := hc.assetsDir.unique htext hc'.assetsDir
  have hstages := hc.stages.unique (fun _ _ => texts_inj) hc'.stages
  have hkind := hc.instanceKind.unique htext hc'.instanceKind
  have htimeout := hc.timeout.unique Function.injective_id hc'.timeout
  cases c
  cases c'
  congr

theorem ofValue_eq_ok : ofValue v = .ok c ↔ ∃ es, v.entries? = some es ∧ Valid es ∧ States es c := by
  refine ⟨exists_states, fun ⟨es, hes, hvalid, hstates⟩ => ?_⟩
  rcases ofValue_cases v with ⟨es', c', hc', hes', -, hstates'⟩ | ⟨why, -, hwhy⟩
  · cases hes.symm.trans hes'
    rw [hc', hstates.unique hstates']
  · exact absurd hvalid (hwhy.not_valid hes)

theorem states_nil : Valid [] ∧ States [] standard :=
  ⟨⟨by simp, by simp [Mapping.get?]⟩, ⟨.absent, .absent, .absent, .absent⟩⟩

/-- What counts as absent states the defaults. -/
theorem stated_of_absent (hv : v.isPresent = false) : Stated v c ↔ c = standard := by
  constructor
  · intro hc
    cases hc with
    | null | hollow => rfl
    | settings hes _ hstates =>
      obtain rfl := Value.entries_of_absent hv hes
      exact hstates.unique states_nil.2
  · rintro rfl
    by_cases hnull : v = .null
    · exact .null hnull
    · cases hes : v.entries? with
      | none => exact .hollow ⟨hv, hnull, hes⟩
      | some es =>
        obtain rfl := Value.entries_of_absent hv hes
        exact .settings hes states_nil.1 states_nil.2

theorem stated_of_present (hv : v.isPresent = true) : Stated v c ↔ ofValue v = .ok c := by
  rw [ofValue_eq_ok]
  constructor
  · intro hc
    cases hc with
    | null hnull => simp [hnull, Value.isPresent] at hv
    | settings hes hvalid hstates => exact ⟨_, hes, hvalid, hstates⟩
    | hollow hhollow => simp [hhollow.absent] at hv
  · rintro ⟨es, hes, hvalid, hstates⟩
    exact .settings hes hvalid hstates

/-- A document that is refused is one that is not taken for an empty mapping. -/
theorem isPresent_of_full (hnull : v ≠ .null) (hfull : ¬ Hollow v) (hwhy : RefusedFor v why) :
    v.isPresent = true := by
  by_contra habsent
  have habsent := Bool.eq_false_iff.mpr habsent
  cases hes : v.entries? with
  | none => exact hfull ⟨habsent, hnull, hes⟩
  | some es =>
    obtain rfl := Value.entries_of_absent habsent hes
    exact hwhy.not_valid hes states_nil.1

theorem RefusedFor.isPresent_of_unknownKey {key : Value} (hwhy : RefusedFor v (.unknownKey key)) :
    v.isPresent = true := by
  cases hwhy with
  | unknownKey hes =>
    by_contra habsent
    have hnil := Value.entries_of_absent (Bool.eq_false_iff.mpr habsent) hes
    simp at hnil

/-! Files. -/

section
variable [Yaml.Reader]

theorem ofFile_of_text (htext : HasText files path text) :
    ofFile files path = (valueOf path text).bind ofValue := by
  obtain ⟨bytes, hread, hbytes⟩ := htext
  simp only [ofFile, hread, hbytes, mapError_ok, bind, Except.bind]

theorem ofFile_of_document (hv : HasDocument files path v) :
    ofFile files path = ofValue (v.orElse (.map false [])) := by
  obtain ⟨text, htext, hdocs⟩ := hv
  have hsingle := Yaml.Reader.only_eq_ok.mpr hdocs
  simp only [ofFile_of_text htext, valueOf, hsingle, Except.bind]

theorem ofFile_of_refusal {refusal : Yaml.Refusal} (htext : HasText files path text)
    (hsingle : Yaml.Reader.only text = .error refusal) :
    ofFile files path = .error (Manifest.refused (.config (.malformed path)) refusal) := by
  simp only [ofFile_of_text htext, valueOf, hsingle, Except.bind]

theorem HasDocument.unique {v' : Value} (hv : HasDocument files path v) (hv' : HasDocument files path v') :
    v = v' := by
  obtain ⟨text, ⟨bytes, hread, hbytes⟩, hdocs⟩ := hv
  obtain ⟨text', ⟨bytes', hread', hbytes'⟩, hdocs'⟩ := hv'
  cases hread.symm.trans hread'
  cases hbytes.symm.trans hbytes'
  exact Except.ok.inj
    ((Yaml.Reader.only_eq_ok.mpr hdocs).symm.trans (Yaml.Reader.only_eq_ok.mpr hdocs'))

theorem HasDocument.ofFile_eq (hv : HasDocument files path v) (hc : Stated v c) :
    ofFile files path = .ok c := by
  rw [ofFile_of_document hv]
  cases hpresent : v.isPresent with
  | false =>
    obtain rfl := (stated_of_absent hpresent).mp hc
    have hnone : ofValue (.map false []) = .ok standard := rfl
    simp [Value.orElse, hpresent, hnone]
  | true => simp [Value.orElse, hpresent, (stated_of_present hpresent).mp hc]

theorem FileFails.ofFile_eq (hf : FileFails files path f) : ofFile files path = .error f := by
  cases hf with
  | unreadable hread => simp only [ofFile, hread, mapError_error, bind, Except.bind]
  | undecodable hbytes =>
    obtain ⟨bytes, hread, hbytes⟩ := hbytes
    simp only [ofFile, hread, hbytes, mapError_ok, bind, Except.bind]
  | malformed htext hmalformed => exact ofFile_of_refusal htext hmalformed
  | unfit hunfit =>
    obtain ⟨text, htext, hsingle⟩ := hunfit
    exact ofFile_of_refusal htext hsingle
  | untold huntold =>
    obtain ⟨v, key, hv, hwhy, hkey⟩ := huntold
    rw [ofFile_of_document hv, Value.orElse, hwhy.isPresent_of_unknownKey, if_pos rfl]
    exact ofValue_eq_error.mpr ⟨_, hwhy, fault_eq_iff.mpr (.inr ⟨rfl, key, rfl, hkey⟩)⟩
  | refused hv hnull hfull hwhy htold =>
    rw [ofFile_of_document hv, Value.orElse, isPresent_of_full hnull hfull hwhy, if_pos rfl]
    exact ofValue_eq_error.mpr ⟨_, hwhy, fault_eq_iff.mpr (.inl ⟨rfl, htold⟩)⟩

/-- A document states a configuration, or it is refused. -/
theorem HasDocument.stated_or_fails (hv : HasDocument files path v) :
    (∃ c, Stated v c) ∨ ∃ f, FileFails files path f := by
  cases hpresent : v.isPresent with
  | false => exact .inl ⟨standard, (stated_of_absent hpresent).mpr rfl⟩
  | true =>
    rcases ofValue_cases v with ⟨es, c, hc, -⟩ | ⟨why, -, hwhy⟩
    · exact .inl ⟨c, (stated_of_present hpresent).mpr hc⟩
    · have hnull : v ≠ .null := fun hv => by simp [hv, Value.isPresent] at hpresent
      have hfull : ¬ Hollow v := fun hv => by simp [hv.absent] at hpresent
      by_cases htold : ∀ key, why = .unknownKey key → key.isWritable = true
      · exact .inr ⟨_, .refused hv hnull hfull hwhy htold⟩
      · simp only [not_forall] at htold
        obtain ⟨key, rfl, hkey⟩ := htold
        exact .inr ⟨_, .untold ⟨v, key, hv, hwhy, Bool.eq_false_iff.mpr hkey⟩⟩

/-- The steps of reading a file, up to its document. -/
theorem hasDocument_or_fails (files : Files.Tree) (path : String) :
    (∃ v, HasDocument files path v) ∨ ∃ f, FileFails files path f := by
  cases hread : files.read path with
  | error why => exact .inr ⟨_, .unreadable hread⟩
  | ok bytes =>
    cases hbytes : Manifest.textOf? bytes with
    | none => exact .inr ⟨_, .undecodable ⟨bytes, hread, hbytes⟩⟩
    | some text =>
      have htext : HasText files path text := ⟨bytes, hread, hbytes⟩
      cases hsingle : Yaml.Reader.only text with
      | ok v => exact .inl ⟨v, text, htext, Yaml.Reader.only_eq_ok.mp hsingle⟩
      | error refusal =>
        cases refusal with
        | malformed => exact .inr ⟨_, .malformed htext hsingle⟩
        | mismatch m => exact .inr ⟨_, .unfit ⟨text, htext, hsingle⟩⟩

theorem ofFile_cases (files : Files.Tree) (path : String) :
    (∃ v c, HasDocument files path v ∧ Stated v c ∧ ofFile files path = .ok c) ∨
      ∃ f, FileFails files path f ∧ ofFile files path = .error f := by
  rcases hasDocument_or_fails files path with ⟨v, hv⟩ | ⟨f, hf⟩
  · rcases hv.stated_or_fails with ⟨c, hc⟩ | ⟨f, hf⟩
    · exact .inl ⟨v, c, hv, hc, hv.ofFile_eq hc⟩
    · exact .inr ⟨f, hf, hf.ofFile_eq⟩
  · exact .inr ⟨f, hf, hf.ofFile_eq⟩

theorem FileFails.isConfig (hf : FileFails files path f) (hbytes : ¬ Undecodable files path)
    (hfit : ∀ m, ¬ Unfit files path m) (htold : ¬ Untold files path) : f.isConfig = true := by
  cases hf with
  | unreadable | malformed | refused => rfl
  | undecodable hundecodable => exact absurd hundecodable hbytes
  | unfit hunfit => exact absurd hunfit (hfit _)
  | untold huntold => exact absurd huntold htold

end

/-! Three files that are not regular: an empty list, a byte that starts no character, and a day that no
month has. -/

def settingsFile (bytes : List UInt8) : Files.Tree :=
  ⟨.directory [("k.yaml", .file bytes false)] .full, []⟩

end Config
end StageGate
