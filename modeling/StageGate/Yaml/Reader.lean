import StageGate.Results
import StageGate.Yaml.Document

/-!
Readers of documents. The rest of the library asks no more of a reader than is said here, and what is
proved holds with any; the one that is written here is used where no other is given.
-/

namespace StageGate.Yaml

class Reader where
  /-- All documents of a text. -/
  documents : String → Except Refusal (List Value)
  /-- The document of a text that has no other one, null if there is none. -/
  only : String → Except Refusal Value
  /-- A document that is alone is read as it is among all. -/
  only_eq_ok {text : String} {v : Value} :
    only text = .ok v ↔ documents text = .ok [v] ∨ documents text = .ok [] ∧ v = .null

section
variable {text : String} {v : Value} {vs : List Value} {fuel : Nat} {bare : Bool} {r : NodeReader}

theorem documentsFrom_eq_nil :
    documentsFrom (fuel + 1) bare r = .ok [] ↔ ∃ r', r.document? bare = .ok (none, r') := by
  rw [documentsFrom, bind_eq_ok]
  constructor
  · rintro ⟨⟨_ | n, r'⟩, hfirst, hrest⟩
    · exact ⟨r', hfirst⟩
    · obtain ⟨_, -, hrest⟩ := bind_eq_ok.mp hrest
      obtain ⟨_, -, hrest⟩ := bind_eq_ok.mp hrest
      obtain ⟨_, -, hrest⟩ := bind_eq_ok.mp hrest
      cases hrest
  · rintro ⟨r', hfirst⟩
    exact ⟨_, hfirst, rfl⟩

theorem documentsFrom_eq_cons : documentsFrom (fuel + 1) bare r = .ok (v :: vs) ↔
    ∃ n r' bare' r'', r.document? bare = .ok (some n, r') ∧ r'.documentEnd = .ok (bare', r'') ∧
      n.document r'.oldRules = .ok v ∧ documentsFrom fuel bare' r'' = .ok vs := by
  rw [documentsFrom, bind_eq_ok]
  constructor
  · rintro ⟨⟨_ | n, r'⟩, hfirst, hrest⟩
    · cases hrest
    · obtain ⟨⟨bare', r''⟩, hend, hrest⟩ := bind_eq_ok.mp hrest
      obtain ⟨_, hv, hrest⟩ := bind_eq_ok.mp hrest
      obtain ⟨_, hvs, hrest⟩ := bind_eq_ok.mp hrest
      cases hrest
      exact ⟨n, r', bare', r'', hfirst, hend, hv, hvs⟩
  · rintro ⟨n, r', bare', r'', hfirst, hend, hv, hvs⟩
    refine ⟨_, hfirst, ?_⟩
    simp only [hend, hv, hvs, bind, Except.bind]
    rfl

/-- The only document of a text is read alone as it is read among all, and is null where there is none. -/
theorem singleDocument_eq_ok :
    singleDocument text = .ok v ↔ documents text = .ok [v] ∨ documents text = .ok [] ∧ v = .null := by
  unfold singleDocument documents
  cases text.toList.all isAllowed with
  | false => simp
  | true =>
    simp only [Bool.not_true, Bool.false_eq_true, ↓reduceIte, documentsFrom_eq_nil, documentsFrom_eq_cons]
    rw [bind_eq_ok]
    constructor
    · rintro ⟨⟨_ | n, r⟩, hfirst, hrest⟩
      · cases hrest
        exact .inr ⟨⟨r, hfirst⟩, rfl⟩
      · obtain ⟨⟨bare, r'⟩, hend, hrest⟩ := bind_eq_ok.mp hrest
        obtain ⟨⟨_ | n', r''⟩, hnext, hv⟩ := bind_eq_ok.mp hrest
        · exact .inl ⟨n, r, bare, r', hfirst, hend, hv, r'', hnext⟩
        · cases hv
    · rintro (⟨n, r, bare, r', hfirst, hend, hv, r'', hnext⟩ | ⟨⟨r, hfirst⟩, rfl⟩)
      · refine ⟨_, hfirst, ?_⟩
        simp only [hend, hnext, bind, Except.bind]
        exact hv
      · exact ⟨_, hfirst, rfl⟩

end

/-- The reader that is written here. -/
instance written : Reader where
  documents := documents
  only := singleDocument
  only_eq_ok := singleDocument_eq_ok

end StageGate.Yaml
