import Mathlib.Data.List.Induction
import StageGate.Proofs.StatedSchemas

/-!
Flaws of documents by where they are and when they come up. A flaw of a document by a schema that is stated
as a mapping has a place and a turn, and what it says holds at its place. The text of a place grows step by
step: a dot before each key but the first, and an index in brackets.
-/

namespace StageGate

theorem Mapping.not_mem_of_not_has {es : Mapping} {key : String} (hlacks : es.has key = false)
    (w : Value) : (.str key, w) ∉ es := by
  intro hentry
  have hfound : (es.find? (.str key)).isSome = true := by
    rw [find?, Option.isSome_map, List.find?_isSome]
    exact ⟨_, hentry, Value.sameKey_str.mpr rfl⟩
  rw [← get?_eq_find?] at hfound
  rw [has, hfound] at hlacks
  cases hlacks

namespace Schema

/-! Places. -/

/-- The value that stands at a place of a document. -/
inductive StandsAt : Value → Location → Value → Prop where
  | root (v : Value) : StandsAt v [] v
  | entry {v w u es key place} (hes : v.entries? = some es) (hentry : (key, w) ∈ es)
      (hu : StandsAt w place u) : StandsAt v (.key key :: place) u
  | item {v w u items i place} (hitems : v.items? = some items) (hitem : items[i]? = some w)
      (hu : StandsAt w place u) : StandsAt v (.index i :: place) u

/-- What a flaw says is true of the document at the place: its mapping above lacks the key, the entry there
is not text under text, or the value there is of another type than the one that the flaw names. -/
inductive Flaw.HoldsAt (doc : Value) : Location → Flaw → Prop where
  | missing {place v es key} (hv : StandsAt doc place v) (hes : v.entries? = some es)
      (hlacks : ∀ w, (.str key, w) ∉ es) : HoldsAt doc (place ++ [.key (.str key)]) .missing
  | notTextEntry {place v es key w} (hv : StandsAt doc place v) (hes : v.entries? = some es)
      (hentry : (key, w) ∈ es) (hother : ¬ ∃ k t, key = .str k ∧ w = .str t) :
      HoldsAt doc (place ++ [.key key]) .notTextEntry
  | notObject {place v} (hv : StandsAt doc place v) (hother : v.entries? = none) :
      HoldsAt doc place .notObject
  | notMap {place v} (hv : StandsAt doc place v) (hother : v.entries? = none) (hnull : v ≠ .null) :
      HoldsAt doc place .notMap
  | notList {place v} (hv : StandsAt doc place v) (hother : v.items? = none) :
      HoldsAt doc place .notList
  | notString {place v} (hv : StandsAt doc place v) (hother : ∀ text, v ≠ .str text) :
      HoldsAt doc place .notString
  | notBoolean {place v} (hv : StandsAt doc place v) (hother : ∀ b, v ≠ .bool b) :
      HoldsAt doc place .notBoolean

/-- The text of a place, step by step. -/
inductive Renders : Location → String → Prop where
  | first (key : Value) : Renders [.key key] key.display
  | key {place text} (htext : Renders place text) (key : Value) :
      Renders (place ++ [.key key]) (text ++ "." ++ key.display)
  | index {place text} (htext : Renders place text) (i : Nat) :
      Renders (place ++ [.index i]) (text ++ "[" ++ toString i ++ "]")

variable {v w : Value} {es : Mapping} {key : Value} {place : Location} {flaw : Flaw}

/-- What holds at a place below a step holds at the place behind the step. -/
theorem Flaw.HoldsAt.step {step : Step} (hholds : flaw.HoldsAt w place)
    (hstep : ∀ {below u}, StandsAt w below u → StandsAt v (step :: below) u) :
    flaw.HoldsAt v (step :: place) := by
  cases hholds with
  | missing hv hes hlacks => exact .missing (hstep hv) hes hlacks
  | notTextEntry hv hes hentry hother => exact .notTextEntry (hstep hv) hes hentry hother
  | notObject hv hother => exact .notObject (hstep hv) hother
  | notMap hv hother hnull => exact .notMap (hstep hv) hother hnull
  | notList hv hother => exact .notList (hstep hv) hother
  | notString hv hother => exact .notString (hstep hv) hother
  | notBoolean hv hother => exact .notBoolean (hstep hv) hother

theorem Location.text_concat_key (first : Step) (place : Location) (key : Value) :
    Location.text (first :: place ++ [.key key]) =
      Location.text (first :: place) ++ "." ++ key.display := by
  induction place generalizing first with
  | nil => rfl
  | cons second place ih =>
    cases second with
    | key k => simpa [Location.text, String.append_assoc] using ih (.key k)
    | index i => simpa [Location.text, String.append_assoc] using ih (.index i)

theorem Location.text_concat_index (first : Step) (place : Location) (i : Nat) :
    Location.text (first :: place ++ [.index i]) =
      Location.text (first :: place) ++ "[" ++ toString i ++ "]" := by
  induction place generalizing first with
  | nil => simp [Location.text, Step.text, String.append_assoc]
  | cons second place ih =>
    cases second with
    | key k => simpa [Location.text, String.append_assoc] using ih (.key k)
    | index j => simpa [Location.text, String.append_assoc] using ih (.index j)

/-- Places that start with a key have the text that grows with their steps. -/
theorem renders_text (key : Value) (below : Location) :
    Renders (.key key :: below) (Location.text (.key key :: below)) := by
  induction below using List.reverseRecOn with
  | nil => exact .first key
  | append_singleton below step ih =>
    cases step with
    | key k =>
      rw [← List.cons_append, Location.text_concat_key]
      exact ih.key k
    | index i =>
      rw [← List.cons_append, Location.text_concat_index]
      exact ih.index i

/-! Flaws. -/

/-- Taken as a schema of the type, a mapping finds the flaw at the place below a value, in the turn. The
turns of a value are ordered like words: its own type comes first; of an object the keys required come in
the order of the schema, as 0 and their number there, and then its entries, as 1 and their number, each with
all the turns below it; entries of maps and items of arrays come by their numbers alone. -/
inductive FlawedAs : Value → Mapping → Value → List Nat → Location → Flaw → Prop where
  | notObject {type s v} (htype : type = .str "object") (hv : v.entries? = none) :
      FlawedAs type s v [] [] .notObject
  | missing {type s v es required i key} (htype : type = .str "object") (hes : v.entries? = some es)
      (hrequired : s.get? "required" = some (.list required)) (hkey : required[i]? = some (.str key))
      (hlacks : es.has key = false) : FlawedAs type s v [0, i] [.key (.str key)] .missing
  | entry {type s v es i key w f turn place flaw} (htype : type = .str "object")
      (hes : v.entries? = some es) (hentry : es[i]? = some (key, w)) (hf : StatesField s key f)
      (hflaw : FlawedAs (f.get "type") f w turn place flaw) :
      FlawedAs type s v (1 :: i :: turn) (.key key :: place) flaw
  | notMap {type s v} (htype : type = .str "map") (hv : v.entries? = none) (hnull : v ≠ .null) :
      FlawedAs type s v [] [] .notMap
  | notTextEntry {type s v es i key w} (htype : type = .str "map") (hes : v.entries? = some es)
      (hentry : es[i]? = some (key, w)) (hother : ¬ ∃ k t, key = .str k ∧ w = .str t) :
      FlawedAs type s v [i] [.key key] .notTextEntry
  | notList {type s v} (htype : type = .str "array") (hv : v.items? = none) :
      FlawedAs type s v [] [] .notList
  | item {type s v items i w f turn place flaw} (htype : type = .str "array")
      (hitems : v.items? = some items) (hitem : items[i]? = some w) (hf : StatesItems s f)
      (hflaw : FlawedAs (f.get "type") f w turn place flaw) :
      FlawedAs type s v (i :: turn) (.index i :: place) flaw
  | notString {type s v} (htype : type = .str "string") (hv : ∀ text, v ≠ .str text) :
      FlawedAs type s v [] [] .notString
  | notBoolean {type s v} (htype : type = .str "boolean") (hv : ∀ b, v ≠ .bool b) :
      FlawedAs type s v [] [] .notBoolean

variable {type : Value} {s : Mapping} {turn : List Nat}

/-! The relation type by type. -/

theorem flawedAs_object_iff :
    FlawedAs (.str "object") s v turn place flaw ↔
      (v.entries? = none ∧ turn = [] ∧ place = [] ∧ flaw = .notObject) ∨
      ∃ es, v.entries? = some es ∧
        ((∃ required i key, s.get? "required" = some (.list required) ∧
            required[i]? = some (.str key) ∧ es.has key = false ∧
            turn = [0, i] ∧ place = [.key (.str key)] ∧ flaw = .missing) ∨
          ∃ i key w f turn' below, es[i]? = some (key, w) ∧ StatesField s key f ∧
            FlawedAs (f.get "type") f w turn' below flaw ∧
            turn = 1 :: i :: turn' ∧ place = .key key :: below) := by
  constructor
  · intro hflaw
    cases hflaw with
    | notObject _ hv => exact .inl ⟨hv, rfl, rfl, rfl⟩
    | missing _ hes hrequired hkey hlacks =>
      exact .inr ⟨_, hes, .inl ⟨_, _, _, hrequired, hkey, hlacks, rfl, rfl, rfl⟩⟩
    | entry _ hes hentry hf hflaw =>
      exact .inr ⟨_, hes, .inr ⟨_, _, _, _, _, _, hentry, hf, hflaw, rfl, rfl⟩⟩
    | notMap htype | notTextEntry htype | notList htype | item htype => simp at htype
    | notString htype | notBoolean htype => simp at htype
  · rintro (⟨hv, rfl, rfl, rfl⟩ | ⟨es, hes, ⟨required, i, key, hrequired, hkey, hlacks, rfl, rfl, rfl⟩ |
      ⟨i, key, w, f, turn', below, hentry, hf, hflaw, rfl, rfl⟩⟩)
    · exact .notObject rfl hv
    · exact .missing rfl hes hrequired hkey hlacks
    · exact .entry rfl hes hentry hf hflaw

theorem flawedAs_map_iff :
    FlawedAs (.str "map") s v turn place flaw ↔
      (v.entries? = none ∧ v ≠ .null ∧ turn = [] ∧ place = [] ∧ flaw = .notMap) ∨
      ∃ es i key w, v.entries? = some es ∧ es[i]? = some (key, w) ∧
        (¬ ∃ k t, key = .str k ∧ w = .str t) ∧
        turn = [i] ∧ place = [.key key] ∧ flaw = .notTextEntry := by
  constructor
  · intro hflaw
    cases hflaw with
    | notMap _ hv hnull => exact .inl ⟨hv, hnull, rfl, rfl, rfl⟩
    | notTextEntry _ hes hentry hother =>
      exact .inr ⟨_, _, _, _, hes, hentry, hother, rfl, rfl, rfl⟩
    | notObject htype | missing htype | entry htype | notList htype | item htype => simp at htype
    | notString htype | notBoolean htype => simp at htype
  · rintro (⟨hv, hnull, rfl, rfl, rfl⟩ | ⟨es, i, key, w, hes, hentry, hother, rfl, rfl, rfl⟩)
    · exact .notMap rfl hv hnull
    · exact .notTextEntry rfl hes hentry hother

theorem flawedAs_array_iff :
    FlawedAs (.str "array") s v turn place flaw ↔
      (v.items? = none ∧ turn = [] ∧ place = [] ∧ flaw = .notList) ∨
      ∃ items i w f turn' below, v.items? = some items ∧ items[i]? = some w ∧ StatesItems s f ∧
        FlawedAs (f.get "type") f w turn' below flaw ∧
        turn = i :: turn' ∧ place = .index i :: below := by
  constructor
  · intro hflaw
    cases hflaw with
    | notList _ hv => exact .inl ⟨hv, rfl, rfl, rfl⟩
    | item _ hitems hitem hf hflaw =>
      exact .inr ⟨_, _, _, _, _, _, hitems, hitem, hf, hflaw, rfl, rfl⟩
    | notObject htype | missing htype | entry htype | notMap htype | notTextEntry htype => simp at htype
    | notString htype | notBoolean htype => simp at htype
  · rintro (⟨hv, rfl, rfl, rfl⟩ | ⟨items, i, w, f, turn', below, hitems, hitem, hf, hflaw, rfl, rfl⟩)
    · exact .notList rfl hv
    · exact .item rfl hitems hitem hf hflaw

theorem flawedAs_string_iff :
    FlawedAs (.str "string") s v turn place flaw ↔
      (∀ text, v ≠ .str text) ∧ turn = [] ∧ place = [] ∧ flaw = .notString := by
  constructor
  · intro hflaw
    cases hflaw with
    | notString _ hv => exact ⟨hv, rfl, rfl, rfl⟩
    | notObject htype | missing htype | entry htype | notMap htype | notTextEntry htype => simp at htype
    | notList htype | item htype | notBoolean htype => simp at htype
  · rintro ⟨hv, rfl, rfl, rfl⟩
    exact .notString rfl hv

theorem flawedAs_boolean_iff :
    FlawedAs (.str "boolean") s v turn place flaw ↔
      (∀ b, v ≠ .bool b) ∧ turn = [] ∧ place = [] ∧ flaw = .notBoolean := by
  constructor
  · intro hflaw
    cases hflaw with
    | notBoolean _ hv => exact ⟨hv, rfl, rfl, rfl⟩
    | notObject htype | missing htype | entry htype | notMap htype | notTextEntry htype => simp at htype
    | notList htype | item htype | notString htype => simp at htype
  · rintro ⟨hv, rfl, rfl, rfl⟩
    exact .notBoolean rfl hv

/-- Only a type that is known brings up flaws. -/
theorem FlawedAs.exists_type (hflaw : FlawedAs type s v turn place flaw) :
    ∃ word ∈ ["object", "map", "array", "string", "boolean"], type = .str word := by
  cases hflaw with
  | notObject htype | missing htype | entry htype | notMap htype | notTextEntry htype =>
    exact ⟨_, by simp, htype⟩
  | notList htype | item htype | notString htype | notBoolean htype => exact ⟨_, by simp, htype⟩

/-- A flaw of a value holds at its place below the value. -/
theorem FlawedAs.holdsAt (hflaw : FlawedAs type s v turn place flaw) : flaw.HoldsAt v place := by
  induction hflaw with
  | notObject _ hv => exact .notObject (.root _) hv
  | missing _ hes _ _ hlacks =>
    exact Flaw.HoldsAt.missing (.root _) hes (Mapping.not_mem_of_not_has hlacks)
  | entry _ hes hentry _ _ ih => exact ih.step (.entry hes (List.mem_of_getElem? hentry))
  | notMap _ hv hnull => exact .notMap (.root _) hv hnull
  | notTextEntry _ hes hentry hother =>
    exact Flaw.HoldsAt.notTextEntry (.root _) hes (List.mem_of_getElem? hentry) hother
  | notList _ hv => exact .notList (.root _) hv
  | item _ hitems hitem _ _ ih => exact ih.step (.item hitems hitem)
  | notString _ hv => exact .notString (.root _) hv
  | notBoolean _ hv => exact .notBoolean (.root _) hv

/-- The place of a flaw in a mapping starts with a key, so that its text grows from that key. -/
theorem FlawedAs.renders (hflaw : FlawedAs (.str "object") s v turn place flaw)
    (hes : v.entries? = some es) : Renders place place.text := by
  rcases flawedAs_object_iff.mp hflaw with ⟨hv, -⟩ | ⟨_, -, ⟨_, _, _, -, -, -, -, rfl, -⟩ |
    ⟨_, _, _, _, _, _, -, -, -, -, rfl⟩⟩
  · simp [hes] at hv
  · exact renders_text _ _
  · exact renders_text _ _

end Schema
end StageGate
