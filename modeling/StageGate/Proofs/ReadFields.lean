import StageGate.Proofs.DecodedMetadata

/-!
Fields of documents as they are read: what the readings of a resource make of a field, and that they find
something wherever the schema of the field is passed. A field that may be left out has a default.
-/

namespace StageGate

theorem Mapping.get_of_get? {es : Mapping} {key : String} {v : Value} (hv : es.get? key = some v) :
    es.get key = v := by
  rw [get, hv, Option.getD_some]

/-- The schema of a field. -/
def Schema.find? (fields : List (Value × Schema)) (key : String) : Option Schema :=
  (List.find? (fun e => e.1.sameKey (.str key)) fields).map Prod.snd

theorem Schema.checkField_of_find? {fields : List (Value × Schema)} {key : String} {s : Schema}
    (hs : find? fields key = some s) (place : Location) (v : Value) :
    checkField fields place (.str key) v = s.check place v := by
  induction fields with
  | nil => simp [find?] at hs
  | cons e fields ih =>
    obtain ⟨k, s'⟩ := e
    cases hk : k.sameKey (.str key) with
    | true =>
      have hsame : s' = s := by simpa [find?, hk] using hs
      simp [checkField, hk, hsame]
    | false =>
      have hrest : find? fields key = some s := by simpa [find?, hk] using hs
      simp [checkField, hk, ih hrest]

theorem Schema.checkField_of_find?_none {fields : List (Value × Schema)} {key : String}
    (hs : find? fields key = none) (place : Location) (v : Value) :
    checkField fields place (.str key) v = none := by
  induction fields with
  | nil => rfl
  | cons e fields ih =>
    obtain ⟨k, s⟩ := e
    cases hk : k.sameKey (.str key) with
    | true => simp [find?, hk] at hs
    | false =>
      have hrest : find? fields key = none := by simpa [find?, hk] using hs
      simp [checkField, hk, ih hrest]

/-- A field of an object passes the schema of its key. -/
theorem Schema.field_checked {v : Value} {es : Mapping} {place : Location} {required : List String}
    {fields : List (Value × Schema)} {key : String} {s : Schema}
    (hcheck : check (.object required fields) place v = none) (hes : v.entries? = some es)
    (hs : find? fields key = some s) (hhas : es.has key = true) :
    s.check (place ++ [.key (.str key)]) (es.get key) = none := by
  obtain ⟨es', hes', -, hentries⟩ := check_object_eq_none_iff.mp hcheck
  cases hes.symm.trans hes'
  rw [← checkField_of_find? hs]
  exact hentries _ _ (Mapping.mem_of_has hhas)

namespace Manifest

/-! Fields as they are read. -/

/-- How a field may be left out. -/
inductive Gap where
  | never
  | absent
  | absentOrNull

/-- Whether there is such a gap where the field would be. -/
def Gap.Allows : Gap → Option Value → Prop
  | .never, _ => False
  | .absent, v => v = none
  | .absentOrNull, v => v = none ∨ v = some .null

/-- What is read under a key: the value there, as the view has it, or the default in an allowed gap. -/
inductive Holds {α : Type} (view : Value → Option α) (default : α) (gap : Gap) (es : Mapping)
    (key : String) : α → Prop where
  | stated {v a} (hv : es.get? key = some v) (ha : view v = some a) : Holds view default gap es key a
  | leftOut (hgap : gap.Allows (es.get? key)) : Holds view default gap es key default

def truth? : Value → Option Bool
  | .bool b => some b
  | _ => none

variable {es : Mapping} {key : String} {gap : Gap}

theorem mappingOf_of_entries {v : Value} {m : Mapping} (hm : v.entries? = some m) :
    mappingOf v = .ok m := by
  unfold mappingOf
  cases hpresent : v.isPresent with
  | false =>
    rw [Value.entries_of_absent hpresent hm]
    rfl
  | true => simp [hm]

theorem listOf_of_items {v : Value} {items : List Value} (hitems : v.items? = some items) :
    listOf v = .ok items := by
  cases v with
  | list vs =>
    obtain rfl : Value.unfoldItems (.list vs) 1 vs = items := by simpa [Value.items?] using hitems
    cases vs with
    | nil => rfl
    | cons v vs => rfl
  | _ => simp [Value.items?] at hitems

theorem get_of_gap (hgap : gap.Allows (es.get? key)) : es.get key = .null := by
  cases gap with
  | never => exact absurd hgap id
  | absent =>
    have hnone : es.get? key = none := hgap
    rw [Mapping.get, hnone, Option.getD_none]
  | absentOrNull =>
    rcases hgap with hnone | hnull
    · rw [Mapping.get, hnone, Option.getD_none]
    · rw [Mapping.get, hnull, Option.getD_some]

/-- A reading that agrees with the view, and takes null for the default, finds what the field holds. -/
theorem Holds.reads {α β : Type} {view : Value → Option α} {default a : α} (read : Value → β)
    (made : α → β) (ha : Holds view default gap es key a)
    (hstated : ∀ v a, view v = some a → read v = made a)
    (hnull : read .null = made default) : read (es.get key) = made a := by
  cases ha with
  | stated hv ha => rw [Mapping.get_of_get? hv, hstated _ _ ha]
  | leftOut hgap => rw [get_of_gap hgap, hnull]

theorem Holds.mapping {m : Mapping} (hm : Holds Value.entries? [] gap es key m) :
    mappingOf (es.get key) = .ok m :=
  hm.reads mappingOf .ok (fun _ _ => mappingOf_of_entries) rfl

theorem Holds.list {items : List Value} (hitems : Holds Value.items? [] gap es key items) :
    listOf (es.get key) = .ok items :=
  hitems.reads listOf .ok (fun _ _ => listOf_of_items) rfl

theorem Holds.value {v : Value} (hv : Holds some .null gap es key v) : es.get key = v :=
  hv.reads id id (fun _ _ hv => Option.some.inj hv) rfl

theorem Holds.flag {b : Bool} (hb : Holds truth? false gap es key b) : (es.get key).isPresent = b := by
  refine hb.reads Value.isPresent id (fun v b hv => ?_) rfl
  cases v with
  | bool b' => simpa [truth?, Value.isPresent] using hv
  | _ => simp [truth?] at hv

/-- What passes the schema is seen by the view, or it is an allowed gap. -/
def Sees {α : Type} (view : Value → Option α) (gap : Gap) (s : Schema) : Prop :=
  ∀ place v, s.check place v = none → (∃ a, view v = some a) ∨ gap.Allows (some v)

theorem sees_object (gap : Gap) (required : List String) (fields : List (Value × Schema)) :
    Sees Value.entries? gap (.object required fields) := by
  intro place v hcheck
  obtain ⟨m, hm, -⟩ := Schema.check_object_eq_none_iff.mp hcheck
  exact .inl ⟨m, hm⟩

theorem sees_map : Sees Value.entries? .absentOrNull .map := by
  intro place v hcheck
  rcases Schema.check_map_eq_none_iff.mp hcheck with rfl | ⟨m, hm, -⟩
  · exact .inr (.inr rfl)
  · exact .inl ⟨m, hm⟩

theorem sees_array (gap : Gap) (items : Schema) : Sees Value.items? gap (.array items) := by
  intro place v hcheck
  obtain ⟨vs, hvs, -⟩ := Schema.check_array_eq_none_iff.mp hcheck
  exact .inl ⟨vs, hvs⟩

theorem sees_boolean (gap : Gap) : Sees truth? gap .boolean := by
  intro place v hcheck
  obtain ⟨b, rfl⟩ := Schema.check_boolean_eq_none_iff.mp hcheck
  exact .inl ⟨b, rfl⟩

theorem sees_any (gap : Gap) (s : Schema) : Sees some gap s :=
  fun _ v _ => .inl ⟨v, rfl⟩

/-- A field of an object that is valid holds something, if its schema is seen by the view and it is
required or may be left out. -/
theorem exists_holds {α : Type} {view : Value → Option α} (default : α) (key : String) {v : Value}
    {s : Schema} {place : Schema.Location} {required : List String} {fields : List (Value × Schema)}
    (hcheck : Schema.check (.object required fields) place v = none) (hes : v.entries? = some es)
    (hs : Schema.find? fields key = some s) (hsees : Sees view gap s)
    (hgap : key ∈ required ∨ gap.Allows none) : ∃ a, Holds view default gap es key a := by
  cases hv : es.get? key with
  | none =>
    obtain ⟨es', hes', hrequired, -⟩ := Schema.check_object_eq_none_iff.mp hcheck
    cases hes.symm.trans hes'
    rcases hgap with hkey | hallowed
    · simpa [Mapping.has, hv] using hrequired key hkey
    · exact ⟨default, .leftOut (by rwa [hv])⟩
  | some w =>
    have hhas : es.has key = true := by simp [Mapping.has, hv]
    have hfield := Schema.field_checked hcheck hes hs hhas
    rw [Mapping.get_of_get? hv] at hfield
    rcases hsees _ _ hfield with ⟨a, ha⟩ | hallowed
    · exact ⟨a, .stated hv ha⟩
    · exact ⟨default, .leftOut (by rwa [hv])⟩

end Manifest
end StageGate
