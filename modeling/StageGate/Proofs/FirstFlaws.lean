import StageGate.Proofs.DocumentFlaws
import StageGate.Proofs.SchemaConformance

/-!
The flaw that the validator reports. A document that passes the checks of its core fields and is rejected has
the flaw at the place that is reported, and no other flaw by the schema of its kind has an earlier turn. The
search goes through a document in the order of the turns, from part to part.
-/

namespace StageGate

namespace Schema

/-- Flaws below a place, by turn and place. -/
abbrev Flaws := List Nat → Location → Flaw → Prop

/-- A search at a place comes to the flaw with the first turn, or to nothing because there is no flaw. -/
inductive Finds (place : Location) (flaws : Flaws) : Option Fault → Prop where
  | nothing (hnone : ∀ turn below flaw, ¬ flaws turn below flaw) : Finds place flaws none
  | first {turn below flaw} (hflaw : flaws turn below flaw)
      (hfirst : ∀ turn' below' flaw', flaws turn' below' flaw' →
        turn < turn' ∨ below' = below ∧ flaw' = flaw) : Finds place flaws (some ⟨place ++ below, flaw⟩)

namespace Finds
variable {place : Location} {flaws others : Flaws} {found found' : Option Fault}

theorem congr (hfound : Finds place flaws found)
    (hflaws : ∀ turn below flaw, flaws turn below flaw ↔ others turn below flaw) :
    Finds place others found := by
  obtain rfl : flaws = others := by
    funext turn below flaw
    exact propext (hflaws turn below flaw)
  exact hfound

/-- A flaw of the value itself is the only one. -/
theorem alone (flaw : Flaw)
    (hflaws : ∀ turn below flaw', flaws turn below flaw' ↔ turn = [] ∧ below = [] ∧ flaw' = flaw) :
    Finds place flaws (some ⟨place, flaw⟩) := by
  have hfound : Finds place flaws (some ⟨place ++ [], flaw⟩) := by
    refine .first ((hflaws [] [] flaw).mpr ⟨rfl, rfl, rfl⟩) fun turn below flaw' hother => ?_
    obtain ⟨-, hbelow, hflaw⟩ := (hflaws turn below flaw').mp hother
    exact .inr ⟨hbelow, hflaw⟩
  rwa [List.append_nil] at hfound

/-- A search one step below. -/
theorem step {step : Step} (hfound : Finds (place ++ [step]) flaws found) :
    Finds place (fun turn below flaw => ∃ rest, below = step :: rest ∧ flaws turn rest flaw) found := by
  cases hfound with
  | nothing hnone =>
    refine .nothing ?_
    rintro turn _ flaw ⟨rest, rfl, hflaw⟩
    exact hnone turn rest flaw hflaw
  | @first turn below flaw hflaw hfirst =>
    rw [List.append_assoc, List.singleton_append]
    refine .first ⟨below, rfl, hflaw⟩ ?_
    rintro turn' _ flaw' ⟨rest, rfl, hother⟩
    rcases hfirst turn' rest flaw' hother with hlt | ⟨rfl, rfl⟩
    · exact .inl hlt
    · exact .inr ⟨rfl, rfl⟩

/-- A search that goes on where another one comes to nothing. -/
theorem orElse (hfound : Finds place flaws found) (hfound' : Finds place others found') :
    Finds place (fun turn below flaw => (∃ rest, turn = 0 :: rest ∧ flaws rest below flaw) ∨
      ∃ rest, turn = 1 :: rest ∧ others rest below flaw) (found <|> found') := by
  cases hfound with
  | @first turn below flaw hflaw hfirst =>
    refine .first (.inl ⟨turn, rfl, hflaw⟩) ?_
    rintro _ below' flaw' (⟨rest, rfl, hother⟩ | ⟨rest, rfl, -⟩)
    · exact (hfirst rest below' flaw' hother).imp_left fun hlt =>
        List.cons_lt_cons_iff.mpr (.inr ⟨rfl, hlt⟩)
    · exact .inl (List.cons_lt_cons_iff.mpr (.inl Nat.zero_lt_one))
  | nothing hnone =>
    cases hfound' with
    | nothing hnone' =>
      refine .nothing ?_
      rintro _ below flaw (⟨rest, -, hflaw⟩ | ⟨rest, -, hflaw⟩)
      · exact hnone rest below flaw hflaw
      · exact hnone' rest below flaw hflaw
    | @first turn below flaw hflaw hfirst =>
      refine .first (.inr ⟨turn, rfl, hflaw⟩) ?_
      rintro _ below' flaw' (⟨rest, -, hother⟩ | ⟨rest, rfl, hother⟩)
      · exact absurd hother (hnone rest below' flaw')
      · exact (hfirst rest below' flaw' hother).imp_left fun hlt =>
          List.cons_lt_cons_iff.mpr (.inr ⟨rfl, hlt⟩)

/-- A search along a list, part by part. -/
theorem along {α : Type} {l : List α} {search : α → Option Fault} {flaws : α → Flaws}
    (hfound : ∀ a ∈ l, Finds place (flaws a) (search a)) :
    Finds place (fun turn below flaw => ∃ i a rest, l[i]? = some a ∧ turn = i :: rest ∧
      flaws a rest below flaw) (l.findSome? search) := by
  cases hsearch : l.findSome? search with
  | none =>
    rw [List.findSome?_eq_none_iff] at hsearch
    refine .nothing ?_
    rintro _ below flaw ⟨i, a, rest, ha, -, hflaw⟩
    have ha := List.mem_of_getElem? ha
    have hfound := hfound a ha
    rw [hsearch a ha] at hfound
    obtain ⟨hnone⟩ := hfound
    exact hnone rest below flaw hflaw
  | some fault =>
    obtain ⟨before, a, after, rfl, ha, hbefore⟩ := List.findSome?_eq_some_iff.mp hsearch
    have hhere := hfound a (by simp)
    rw [ha] at hhere
    cases hhere with
    | @first turn below flaw hflaw hfirst =>
      refine .first ⟨before.length, a, turn, by simp, rfl, hflaw⟩ ?_
      rintro _ below' flaw' ⟨i, b, rest, hb, rfl, hother⟩
      rcases Nat.lt_trichotomy i before.length with hi | rfl | hi
      -- what stands before has no flaw
      · have hmem : b ∈ before := by
          rw [List.getElem?_append_left hi] at hb
          exact List.mem_of_getElem? hb
        have hthere := hfound b (by simp [hmem])
        rw [hbefore b hmem] at hthere
        obtain ⟨hnone⟩ := hthere
        exact absurd hother (hnone rest below' flaw')
      · obtain rfl : a = b := by simpa using hb
        exact (hfirst rest below' flaw' hother).imp_left fun hlt =>
          List.cons_lt_cons_iff.mpr (.inr ⟨rfl, hlt⟩)
      · exact .inl (List.cons_lt_cons_iff.mpr (.inl hi))

/-- A search along a list for a part that is flawed itself. -/
theorem among {α : Type} (p : α → Bool) (step : α → Step) (flaw : Flaw) (l : List α) :
    Finds place (fun turn below flaw' => ∃ i a, l[i]? = some a ∧ p a = true ∧ turn = [i] ∧
      below = [step a] ∧ flaw' = flaw) ((l.find? p).map fun a => ⟨place ++ [step a], flaw⟩) := by
  have hsearch : ((l.find? p).map fun a => (⟨place ++ [step a], flaw⟩ : Fault)) =
      l.findSome? fun a => if p a then some ⟨place ++ [step a], flaw⟩ else none := by
    induction l with
    | nil => rfl
    | cons a l ih => cases ha : p a <;> simp [ha, ih]
  rw [hsearch]
  have hpart (a : α) : Finds place (fun turn below flaw' => p a = true ∧ turn = [] ∧ below = [step a] ∧
      flaw' = flaw) (if p a then some ⟨place ++ [step a], flaw⟩ else none) := by
    cases ha : p a with
    | false => exact .nothing (by simp)
    | true =>
      refine @Finds.first _ _ [] _ _ ⟨rfl, rfl, rfl, rfl⟩ ?_
      rintro _ _ _ ⟨-, -, rfl, rfl⟩
      exact .inr ⟨rfl, rfl⟩
  refine (along fun a _ => hpart a).congr fun turn below flaw' => ?_
  constructor
  · rintro ⟨i, a, rest, ha, rfl, hp, rfl, hbelow, hflaw⟩
    exact ⟨i, a, ha, hp, rfl, hbelow, hflaw⟩
  · rintro ⟨i, a, ha, hp, rfl, hbelow, hflaw⟩
    exact ⟨i, a, [], ha, rfl, hp, rfl, hbelow, hflaw⟩

end Finds

variable {s : Mapping} {v : Value} {place : Location}

/-! The checks are such searches, by induction on what is stated. -/

/-- The schema that is read from the mapping is searched for the flaws that the mapping states. -/
def Searched (s : Mapping) : Prop :=
  ∀ ordered place v, Finds place (FlawedAs (s.get "type") s v) (check (ofValue (.map ordered s)) place v)

theorem getElem?_requiredOf {i : Nat} {key : String}
    (hrequired : ∀ v, s.get? "required" = some v → ∃ keys : List String, v = .list (keys.map .str)) :
    (requiredOf s)[i]? = some key ↔
      ∃ required, s.get? "required" = some (.list required) ∧ required[i]? = some (.str key) := by
  unfold requiredOf Mapping.get
  cases hstated : s.get? "required" with
  | none => simp
  | some stated =>
    obtain ⟨keys, rfl⟩ := hrequired stated hstated
    simp

/-- The one schema that is stated is searched for its flaws; an empty one has none. -/
theorem Searched.finds_stated {f : Mapping} {States : Mapping → Prop} (hf : Searched f)
    (hstates : ∀ g, States g ↔ g = f ∧ f ≠ []) (ordered : Bool) (place : Location) (v : Value) :
    Finds place (fun turn below flaw => ∃ g, States g ∧ FlawedAs (g.get "type") g v turn below flaw)
      (check (ofValue (.map ordered f)) place v) := by
  refine (hf ordered place v).congr fun turn below flaw => ?_
  simp only [hstates]
  constructor
  · intro hflaw
    refine ⟨f, ⟨rfl, ?_⟩, hflaw⟩
    rintro rfl
    obtain ⟨word, -, hword⟩ := hflaw.exists_type
    simp [Mapping.get] at hword
  · rintro ⟨_, ⟨rfl, -⟩, hflaw⟩
    exact hflaw

/-- A field is searched for the flaws that are stated for its key. -/
theorem finds_field (hfields : ∀ v, s.get? "fields" = some v → ∃ ordered fs, v = .map ordered fs)
    (hstated : ∀ ordered fs k v, s.get? "fields" = some (.map ordered fs) → (k, v) ∈ fs →
      ∃ ordered' f, v = .map ordered' f)
    (hsearched : ∀ ordered fs k ordered' f, s.get? "fields" = some (.map ordered fs) →
      (k, .map ordered' f) ∈ fs → Searched f) (place : Location) (key v : Value) :
    Finds place (fun turn below flaw => ∃ f, StatesField s key f ∧
      FlawedAs (f.get "type") f v turn below flaw) (checkField (fieldsOf s) place key v) := by
  rcases checkField_cases hfields hstated key with ⟨hfree, hnone⟩ |
    ⟨ordered, fs, k, ordered', f, hfs, hmem, hcheck, hf⟩
  · rw [hfree]
    refine .nothing ?_
    rintro turn below flaw ⟨f, hf, -⟩
    exact hnone f hf
  · rw [hcheck]
    exact (hsearched ordered fs k ordered' f hfs hmem).finds_stated hf ordered' place v

theorem finds_items (hitems : ∀ v, s.get? "items" = some v → ∃ ordered f, v = .map ordered f)
    (hsearched : ∀ ordered f, s.get? "items" = some (.map ordered f) → Searched f) (place : Location)
    (v : Value) :
    Finds place (fun turn below flaw => ∃ f, StatesItems s f ∧
      FlawedAs (f.get "type") f v turn below flaw) (check (itemsOf s) place v) := by
  rcases itemsOf_cases hitems with ⟨hfree, hnone⟩ | ⟨ordered, f, hstated, heq, hf⟩
  · rw [hfree, check]
    refine .nothing ?_
    rintro turn below flaw ⟨f, hf, -⟩
    exact hnone f hf
  · rw [heq]
    exact (hsearched ordered f hstated).finds_stated hf ordered place v

theorem finds_object
    (hrequired : ∀ v, s.get? "required" = some v → ∃ keys : List String, v = .list (keys.map .str))
    (hfield : ∀ place key w, Finds place (fun turn below flaw => ∃ f, StatesField s key f ∧
      FlawedAs (f.get "type") f w turn below flaw) (checkField (fieldsOf s) place key w))
    (place : Location) (v : Value) :
    Finds place (FlawedAs (.str "object") s v) (check (.object (requiredOf s) (fieldsOf s)) place v) := by
  cases hes : v.entries? with
  | none =>
    simp only [check, hes]
    exact .alone .notObject fun turn below flaw => by simp [flawedAs_object_iff, hes]
  | some es =>
    simp only [check, hes]
    have hmissing : Finds place _ (firstMissing (requiredOf s) place es) :=
      .among (fun key => !es.has key) (fun key => .key (.str key)) .missing (requiredOf s)
    have hentries : Finds place _ (es.findSome? _) :=
      .along fun e _ => (hfield (place ++ [.key e.1]) e.1 e.2).step
    refine (hmissing.orElse hentries).congr fun turn below flaw => ?_
    simp only [flawedAs_object_iff, hes]
    constructor
    · rintro (⟨_, rfl, i, key, hkey, hlacks, rfl, rfl, rfl⟩ |
        ⟨_, rfl, i, ⟨key, w⟩, turn, hentry, rfl, below, rfl, f, hf, hflaw⟩)
      · obtain ⟨required, hrequired, hkey⟩ := (getElem?_requiredOf hrequired).mp hkey
        exact .inr ⟨es, rfl, .inl
          ⟨required, i, key, hrequired, hkey, by simpa using hlacks, rfl, rfl, rfl⟩⟩
      · exact .inr ⟨es, rfl, .inr ⟨i, key, w, f, turn, below, hentry, hf, hflaw, rfl, rfl⟩⟩
    · rintro (⟨⟨⟩, -⟩ | ⟨_, ⟨⟩, ⟨required, i, key, hkeys, hkey, hlacks, rfl, rfl, rfl⟩ |
        ⟨i, key, w, f, turn', below', hentry, hf, hflaw, rfl, rfl⟩⟩)
      · have hkey := (getElem?_requiredOf hrequired).mpr ⟨required, hkeys, hkey⟩
        exact .inl ⟨_, rfl, i, key, hkey, by simpa using hlacks, rfl, rfl, rfl⟩
      · exact .inr ⟨_, rfl, i, (key, w), turn', hentry, rfl, below', rfl, f, hf, hflaw⟩

theorem finds_map (s : Mapping) (place : Location) (v : Value) :
    Finds place (FlawedAs (.str "map") s v) (check .map place v) := by
  cases hes : v.entries? with
  | none =>
    by_cases hnull : v = .null
    · subst hnull
      exact .nothing fun turn below flaw => by simp [flawedAs_map_iff, Value.entries?]
    · have hcheck : check .map place v = some ⟨place, .notMap⟩ := by simp [check, hes]
      rw [hcheck]
      exact .alone .notMap fun turn below flaw => by simp [flawedAs_map_iff, hes, hnull]
  | some es =>
    have hnull : v ≠ .null := by
      rintro rfl
      simp [Value.entries?] at hes
    have hcheck : check .map place v = firstNotText place es := by simp [check, hes]
    have htext (e : Value × Value) : (!(e.1.isStr && e.2.isStr)) = true ↔
        ¬ ∃ k t, e.1 = .str k ∧ e.2 = .str t := by
      rw [Bool.not_eq_true', ← Bool.not_eq_true, not_iff_not, Bool.and_eq_true, Value.isStr_iff,
        Value.isStr_iff, exists_and_exists_comm]
    rw [hcheck]
    refine (Finds.among _ (fun e => .key e.1) .notTextEntry es).congr fun turn below flaw => ?_
    simp only [flawedAs_map_iff, hes, htext]
    constructor
    · rintro ⟨i, ⟨key, w⟩, hentry, hother, rfl, rfl, rfl⟩
      exact .inr ⟨es, i, key, w, rfl, hentry, hother, rfl, rfl, rfl⟩
    · rintro (⟨⟨⟩, -⟩ | ⟨_, i, key, w, ⟨⟩, hentry, hother, rfl, rfl, rfl⟩)
      exact ⟨i, (key, w), hentry, hother, rfl, rfl, rfl⟩

theorem finds_array
    (hitem : ∀ place w, Finds place (fun turn below flaw => ∃ f, StatesItems s f ∧
      FlawedAs (f.get "type") f w turn below flaw) (check (itemsOf s) place w))
    (place : Location) (v : Value) :
    Finds place (FlawedAs (.str "array") s v) (check (.array (itemsOf s)) place v) := by
  cases hitems : v.items? with
  | none =>
    simp only [check, hitems]
    exact .alone .notList fun turn below flaw => by simp [flawedAs_array_iff, hitems]
  | some items =>
    simp only [check, hitems]
    have hfound : Finds place _ (items.zipIdx.findSome? _) :=
      .along fun e _ => (hitem (place ++ [.index e.2]) e.1).step
    refine hfound.congr fun turn below flaw => ?_
    simp only [flawedAs_array_iff, hitems]
    constructor
    · rintro ⟨i, ⟨w, j⟩, turn, hentry, rfl, below, rfl, f, hf, hflaw⟩
      obtain ⟨hw, rfl⟩ : items[i]? = some w ∧ i = j := by simpa [List.getElem?_zipIdx] using hentry
      exact .inr ⟨items, i, w, f, turn, below, rfl, hw, hf, hflaw, rfl, rfl⟩
    · rintro (⟨⟨⟩, -⟩ | ⟨_, i, w, f, turn', below', ⟨⟩, hw, hf, hflaw, rfl, rfl⟩)
      exact ⟨i, (w, i), turn', by simp [List.getElem?_zipIdx, hw], rfl, below', rfl, f, hf, hflaw⟩

theorem WellFormed.searched (hs : WellFormed s) : Searched s := by
  induction hs with
  | @intro s _ hrequired hfields hstated _ hitems _ ihField ihItem =>
    intro ordered place v
    rw [ofValue]
    split
    · rename_i htype
      rw [htype]
      exact finds_object hrequired (finds_field hfields hstated ihField) place v
    · rename_i htype
      rw [htype]
      exact finds_map s place v
    · rename_i htype
      rw [htype]
      exact finds_array (finds_items hitems ihItem) place v
    · rename_i htype
      rw [htype, check]
      split
      · rename_i hv
        obtain ⟨text, rfl⟩ := Value.isStr_iff.mp hv
        exact .nothing fun turn below flaw => by simp [flawedAs_string_iff]
      · rename_i hv
        have hv : ∀ text, v ≠ .str text := by simpa [Value.isStr_iff] using hv
        exact .alone .notString fun turn below flaw => by simp [flawedAs_string_iff, hv]
    · rename_i htype
      rw [htype]
      cases v with
      | bool b => exact .nothing fun turn below flaw => by simp [flawedAs_boolean_iff]
      | _ => exact .alone .notBoolean fun turn below flaw => by simp [flawedAs_boolean_iff]
    -- no type, or none that is known
    · refine .nothing fun turn below flaw hflaw => ?_
      obtain ⟨word, hword, htype⟩ := hflaw.exists_type
      simp_all

/-- The sentence on a flaw at a place whose text stands in quotes. -/
def Flaw.sentence (quoted : String) : Flaw → String
  | .missing => "Field " ++ quoted ++ " is required but missing."
  | .notObject => quoted ++ " must be a map/object."
  | .notMap => quoted ++ " must be a map of strings."
  | .notTextEntry => quoted ++ " must be a string value."
  | .notList => quoted ++ " must be a list/sequence."
  | .notString => quoted ++ " must be a string."
  | .notBoolean => quoted ++ " must be a boolean."

theorem Fault.message_eq (f : Fault) : f.message = f.flaw.sentence ("'" ++ f.place.text ++ "'") := by
  obtain ⟨place, flaw⟩ := f
  cases flaw <;> rfl

end Schema

namespace SchemaCatalog
variable {catalog doc : Value} {es s : Mapping}

/-- The document has the core fields, text for its version, and a kind for which a schema is stated. -/
structure HasSchema (catalog doc : Value) (es s : Mapping) : Prop where
  entries : doc.entries? = some es
  core : ∀ field ∈ ["apiVersion", "kind", "metadata"], es.has field = true
  version : ∃ version, es.get "apiVersion" = .str version
  kind : StatesKind catalog (es.get "kind") s

theorem StatesKind.exists_key {kind : Value} (hs : StatesKind catalog kind s) :
    ∃ key, kind.key? = some key := by
  obtain ⟨_, _, _, -, hfind, -⟩ := hs
  obtain ⟨e, he, -⟩ := Option.map_eq_some_iff.mp hfind
  have hsame : e.1.sameKey kind = true := by simpa using List.find?_some he
  obtain ⟨key, -, hkey⟩ := Value.sameKey_eq_true_iff.mp hsame
  exact ⟨key, hkey⟩

/-- Where everything else is right the verdict is that of the schema. -/
theorem HasSchema.validate_eq (hc : WellFormed catalog) (hdoc : HasSchema catalog doc es s) :
    (ofValue catalog).validate doc =
      .ok (((Schema.object (Schema.requiredOf s) (Schema.fieldsOf s)).check [] doc).map .fault) := by
  have hcore : coreFields.find? (fun field => !es.has field) = none := by
    simpa [coreFields] using hdoc.core
  have hversion : (es.get "apiVersion").isStr = true := Value.isStr_iff.mpr hdoc.version
  have hfind := (find?_ofValue_iff hc).mpr ⟨s, hdoc.kind, rfl⟩
  obtain ⟨key, hkey⟩ := hdoc.kind.exists_key
  simp [validate, hdoc.entries, hcore, hversion, hkey, hfind, DocumentSchema.check]

/-- What a document with a schema is rejected for is a flaw at a place of it. The message holds the text of
the place, what the flaw says is true there, and every other flaw that the document has by the schema comes
in a later turn. -/
theorem validate_first_flaw (hc : WellFormed catalog) (hdoc : HasSchema catalog doc es s) {why : Rejection}
    (hwhy : (ofValue catalog).validate doc = .ok (some why)) :
    ∃ place flaw text, why = .fault ⟨place, flaw⟩ ∧
      why.message = flaw.sentence ("'" ++ text ++ "'") ∧ Schema.Renders place text ∧
      flaw.HoldsAt doc place ∧ ∃ turn, Schema.FlawedAs (.str "object") s doc turn place flaw ∧
        ∀ turn' place' flaw', Schema.FlawedAs (.str "object") s doc turn' place' flaw' →
          turn < turn' ∨ place' = place ∧ flaw' = flaw := by
  obtain ⟨-, hrequired, hfields, hstated, hfield, -, -⟩ := hc.schema hdoc.kind
  have hfound : Schema.Finds [] (Schema.FlawedAs (.str "object") s doc)
      (Schema.check (.object (Schema.requiredOf s) (Schema.fieldsOf s)) [] doc) := by
    refine Schema.finds_object hrequired (Schema.finds_field hfields hstated ?_) [] doc
    intro ordered fs k ordered' f hfs hmem
    exact (hfield ordered fs k ordered' f hfs hmem).searched
  rw [hdoc.validate_eq hc, Except.ok.injEq, Option.map_eq_some_iff] at hwhy
  obtain ⟨fault, hfault, rfl⟩ := hwhy
  rw [hfault] at hfound
  cases hfound with
  | @first turn place flaw hflaw hfirst =>
    exact ⟨place, flaw, place.text, rfl, Schema.Fault.message_eq _, hflaw.renders hdoc.entries,
      hflaw.holdsAt, turn, hflaw, hfirst⟩

/-- A role with two rules, of which the second one is flawed twice. -/
def looseRole : Value :=
  .map false [(.str "apiVersion", .str "v1"), (.str "kind", .str "Role"),
    (.str "metadata", .map false [(.str "name", .str "a")]),
    (.str "rules", .list [.map false [(.str "verbs", .list [])],
      .map false [(.str "verbs", .str "get"), (.str "resources", .null)]])]

/-- Its verbs are blamed, since they stand before its resources. -/
theorem looseRole_blamed :
    WellFormed standard.toValue ∧ ∃ es s, HasSchema standard.toValue looseRole es s ∧
      ∃ why, standard.validate looseRole = .ok (some why) ∧
        why.message = "'rules[1].verbs' must be a list/sequence." ∧
        ∃ place flaw, why = .fault ⟨place, flaw⟩ ∧ flaw.HoldsAt looseRole place ∧
          ∃ turn, Schema.FlawedAs (.str "object") s looseRole turn place flaw ∧
            ∀ turn' place' flaw', Schema.FlawedAs (.str "object") s looseRole turn' place' flaw' →
              turn < turn' ∨ place' = place ∧ flaw' = flaw := by
  have hdoc : HasSchema standard.toValue looseRole (looseRole.entries?.getD [])
      (Schema.object Schema.role.required Schema.role.fields).toEntries :=
    ⟨rfl, by decide, ⟨"v1", rfl⟩, false, _, false, rfl, rfl, by simp [Schema.toEntries]⟩
  have hwhy : standard.validate looseRole =
      .ok (some (.fault ⟨[.key (.str "rules"), .index 1, .key (.str "verbs")], .notList⟩)) := rfl
  obtain ⟨place, flaw, -, hfault, -, -, hholds, hfirst⟩ := validate_first_flaw standard_wellFormed hdoc
    (by rwa [ofValue_toValue])
  exact ⟨standard_wellFormed, _, _, hdoc, _, hwhy, by decide, place, flaw, hfault, hholds, hfirst⟩

end SchemaCatalog
end StageGate
