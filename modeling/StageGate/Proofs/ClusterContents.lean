import StageGate.Cluster.Store
import StageGate.Proofs.Computations

/-!
The contents of clusters. What is found under a key is what was put there last, so that an object in a
cluster made by puts and deletes always lies under its own key, and puts under new keys only add to what
is found.
-/

namespace StageGate

/-- The place of a namespace in a key: one that does not count as present is the same as none. -/
def namespaceKey? (ns : Value) : Option (Option Key) :=
  if ns.isPresent then ns.key?.map some else some none

theorem Lookup.key?_eq_some {l : Lookup} {key : ObjectKey} :
    l.key? = some key ↔ l.kind.key? = some key.kind ∧ l.name.key? = some key.name ∧
      namespaceKey? l.namespaceName = some key.namespaceName := by
  obtain ⟨kind, ns, name⟩ := key
  unfold Lookup.key? namespaceKey?
  cases l.kind.key? with
  | none => simp
  | some k =>
    cases l.name.key? with
    | none => simp
    | some n =>
      cases l.namespaceName.isPresent with
      | false => simp [and_comm]
      | true => cases l.namespaceName.key? <;> simp [and_comm]

/-- Of the namespace a key keeps no more than its place there. -/
theorem Lookup.key?_congr {kind name ns ns' : Value} (hns : namespaceKey? ns = namespaceKey? ns') :
    (Lookup.mk kind name ns).key? = (Lookup.mk kind name ns').key? :=
  Option.ext fun key => by simp only [Lookup.key?_eq_some, hns]

namespace Cluster

/-- The object is put under the key. -/
def Keyed (object : Value) (key : ObjectKey) : Prop :=
  ∃ l, lookupOf object = .ok l ∧ l.key? = some key

/-- A cluster that is made by puts and deletes. -/
inductive Made : Cluster → Prop where
  | empty : Made .empty
  | put {c object c'} (hc : Made c) (hput : c.put object = .ok c') : Made c'
  | delete {c l c'} (hc : Made c) (hdelete : c.delete l = .ok c') : Made c'

/-- All that one cluster holds the other holds too. -/
def Extends (large small : Cluster) : Prop :=
  ∀ key object, small.find? key = some object → large.find? key = some object

variable {c c' : Cluster} {key other : ObjectKey} {object o : Value} {objects : List Value}
  {l : Lookup}

/-- What can be put: a mapping with a kind, and with metadata that give a name. -/
theorem lookupOf_eq_ok : lookupOf object = .ok l ↔ ∃ es ms, object.entries? = some es ∧
    es.has "kind" = true ∧ (es.get "metadata").isPresent = true ∧
      (es.get "metadata").entries? = some ms ∧ (ms.get "name").isPresent = true ∧
        l = ⟨es.get "kind", ms.get "name", ms.get "namespace"⟩ := by
  unfold lookupOf
  cases hes : object.entries? with
  | none => simp
  | some es =>
    cases hkind : es.has "kind" with
    | false => simp [hkind]
    | true =>
      cases hp : (es.get "metadata").isPresent with
      | false =>
        have hnameless : (Mapping.get [] "name").isPresent = false := rfl
        simp [hkind, hp, hnameless]
      | true =>
        cases hms : (es.get "metadata").entries? with
        | none => simp [hkind, hp, hms]
        | some ms =>
          cases hname : (ms.get "name").isPresent with
          | false => simp [hkind, hp, hms, hname]
          | true => simp [hkind, hp, hms, hname, pure, Except.pure, @eq_comm _ l]

theorem Keyed.unique (hk : Keyed object key) (ho : Keyed object other) : key = other := by
  obtain ⟨l, hl, hkey⟩ := hk
  obtain ⟨l', hl', hother⟩ := ho
  cases hl.symm.trans hl'
  exact Option.some.inj (hkey.symm.trans hother)

theorem keyOf_eq_ok : keyOf l = .ok key ↔ l.key? = some key := by
  unfold keyOf
  cases l.key? <;> simp

theorem put_eq_ok : c.put object = .ok c' ↔ ∃ key, Keyed object key ∧ c' = c.insert key object := by
  constructor
  · intro hput
    obtain ⟨l, hl, hput⟩ := bind_eq_ok.mp hput
    obtain ⟨key, hk, hput⟩ := bind_eq_ok.mp hput
    cases hput
    exact ⟨key, ⟨l, hl, keyOf_eq_ok.mp hk⟩, rfl⟩
  · rintro ⟨key, ⟨l, hl, hk⟩, rfl⟩
    exact bind_eq_ok.mpr ⟨l, hl, bind_eq_ok.mpr ⟨key, keyOf_eq_ok.mpr hk, rfl⟩⟩

theorem delete_of_key (c : Cluster) (hk : l.key? = some key) : c.delete l = .ok (c.erase key) := by
  obtain ⟨objects⟩ := c
  cases objects with
  | nil => rfl
  | cons => simp [delete, keyOf, hk, Except.map]

theorem delete_of_not_key (hk : l.key? = none) :
    c.delete l = if c.objects.isEmpty then .ok c else .error (.mismatch .wrongType) := by
  simp [delete, keyOf, hk, Except.map]

theorem delete_eq_ok : c.delete l = .ok c' ↔
    (∃ key, l.key? = some key ∧ c' = c.erase key) ∨ l.key? = none ∧ c.objects = [] ∧ c' = c := by
  cases hk : l.key? with
  | none => by_cases hc : c.objects = [] <;> simp [delete_of_not_key hk, hc, @eq_comm _ c]
  | some key => simp [delete_of_key c hk, @eq_comm _ (c.erase key)]

theorem get_of_key (hk : l.key? = some key) :
    c.get l = match c.find? key with
      | some object => .ok object
      | none => .error l.absence := by
  unfold get
  rw [keyOf_eq_ok.mpr hk]
  rfl

theorem get_of_not_key (hk : l.key? = none) : c.get l = .error (.mismatch .wrongType) := by
  simp [get, keyOf, hk, bind, Except.bind]

theorem get_eq_ok : c.get l = .ok object ↔ ∃ key, l.key? = some key ∧ c.find? key = some object := by
  cases hk : l.key? with
  | none => simp [get_of_not_key hk]
  | some key => cases hf : c.find? key <;> simp [get_of_key hk, hf]

/-- A look-up sees no more of a cluster than what lies under its key. -/
theorem get_congr (hf : ∀ key, l.key? = some key → c'.find? key = c.find? key) :
    c'.get l = c.get l := by
  cases hk : l.key? with
  | none => rw [get_of_not_key hk, get_of_not_key hk]
  | some key => rw [get_of_key hk, get_of_key hk, hf key hk]

theorem find?_erase_self (c : Cluster) (key : ObjectKey) : (c.erase key).find? key = none := by
  simp [find?, erase]

theorem find?_erase_other (c : Cluster) (hne : other ≠ key) :
    (c.erase key).find? other = c.find? other := by
  have hsame (e : ObjectKey × Value) :
      decide ((e.1 != key) = true ∧ (e.1 == other) = true) = (e.1 == other) := by
    by_cases he : e.1 = other
    · simp [he, hne]
    · simp [he]
  simp only [find?, erase, List.find?_filter, hsame]

@[simp] theorem find?_insert_self (c : Cluster) (key : ObjectKey) (object : Value) :
    (c.insert key object).find? key = some object := by
  have hnone := Option.map_eq_none_iff.mp (find?_erase_self c key)
  simp [find?, insert, List.find?_append, hnone]

theorem find?_insert_other (c : Cluster) (hne : other ≠ key) (object : Value) :
    (c.insert key object).find? other = c.find? other := by
  rw [← find?_erase_other c hne]
  have hkey : (key == other) = false := by simpa using hne.symm
  simp [find?, insert, List.find?_append, hkey]

theorem find?_insert (c : Cluster) (hf : (c.insert key object).find? other = some o) :
    other = key ∧ o = object ∨ c.find? other = some o := by
  by_cases hother : other = key
  · subst hother
    rw [find?_insert_self] at hf
    exact .inl ⟨rfl, (Option.some.inj hf).symm⟩
  · rw [find?_insert_other c hother] at hf
    exact .inr hf

theorem Made.keyed (hc : Made c) (hf : c.find? key = some object) : Keyed object key := by
  induction hc with
  | empty => simp [find?, Cluster.empty] at hf
  | @put c object' c' _ hput ih =>
    obtain ⟨key', hkeyed, rfl⟩ := put_eq_ok.mp hput
    rcases find?_insert c hf with ⟨rfl, rfl⟩ | hold
    · exact hkeyed
    · exact ih hold
  | @delete c l c' _ hdelete ih =>
    rcases delete_eq_ok.mp hdelete with ⟨key', -, rfl⟩ | ⟨-, -, rfl⟩
    · by_cases hkey : key = key'
      · simp [hkey, find?_erase_self] at hf
      · rw [find?_erase_other c hkey] at hf
        exact ih hf
    · exact ih hf

/-- One more object after others. -/
theorem puts_cons : (object :: objects).foldlM put c = .ok c' ↔
    ∃ key, Keyed object key ∧ objects.foldlM put (c.insert key object) = .ok c' := by
  rw [List.foldlM_cons, bind_eq_ok]
  constructor
  · rintro ⟨c₁, hput, hrest⟩
    obtain ⟨key, hkeyed, rfl⟩ := put_eq_ok.mp hput
    exact ⟨key, hkeyed, hrest⟩
  · rintro ⟨key, hkeyed, hrest⟩
    exact ⟨_, put_eq_ok.mpr ⟨key, hkeyed, rfl⟩, hrest⟩

theorem Made.puts (hc : Made c) (hputs : objects.foldlM Cluster.put c = .ok c') : Made c' := by
  induction objects generalizing c with
  | nil =>
    cases hputs
    exact hc
  | cons object objects ih =>
    obtain ⟨key, hkeyed, hrest⟩ := puts_cons.mp hputs
    exact ih (hc.put (put_eq_ok.mpr ⟨key, hkeyed, rfl⟩)) hrest

/-- After puts a key that none of them is under holds what it held before. -/
theorem find?_puts_other (hputs : objects.foldlM put c = .ok c')
    (hkeys : ∀ o ∈ objects, ¬ Keyed o key) : c'.find? key = c.find? key := by
  induction objects generalizing c with
  | nil =>
    cases hputs
    rfl
  | cons object objects ih =>
    obtain ⟨hobject, hrest⟩ := List.forall_mem_cons.mp hkeys
    obtain ⟨key', hkeyed, hputs'⟩ := puts_cons.mp hputs
    have hne : key ≠ key' := fun hkey => hobject (hkey ▸ hkeyed)
    rw [ih hputs' hrest, find?_insert_other c hne]

/-- After puts a key that some of them are under holds one of these. -/
theorem find?_puts_self (hputs : objects.foldlM put c = .ok c') (hmem : object ∈ objects)
    (hkeyed : Keyed object key) : ∃ o ∈ objects, Keyed o key ∧ c'.find? key = some o := by
  induction objects generalizing c object with
  | nil => simp at hmem
  | cons first objects ih =>
    obtain ⟨key', hkeyed', hputs'⟩ := puts_cons.mp hputs
    by_cases hlater : ∃ o ∈ objects, Keyed o key
    · obtain ⟨o, ho, hokey⟩ := hlater
      obtain ⟨o', ho', hfound⟩ := ih hputs' ho hokey
      exact ⟨o', List.mem_cons_of_mem _ ho', hfound⟩
    · have hfirst : object = first := by
        rcases List.mem_cons.mp hmem with heq | hmem
        · exact heq
        · exact absurd ⟨object, hmem, hkeyed⟩ hlater
      subst hfirst
      cases hkeyed.unique hkeyed'
      have hnone : ∀ o ∈ objects, ¬ Keyed o key := fun o ho hokey => hlater ⟨o, ho, hokey⟩
      refine ⟨object, List.mem_cons_self, hkeyed, ?_⟩
      rw [find?_puts_other hputs' hnone, find?_insert_self]

/-- Objects that each have a key can all be put. -/
theorem exists_puts (hkeyed : ∀ o ∈ objects, ∃ key, Keyed o key) (c : Cluster) :
    ∃ c', objects.foldlM put c = .ok c' := by
  induction objects generalizing c with
  | nil => exact ⟨c, rfl⟩
  | cons object objects ih =>
    obtain ⟨⟨key, hkey⟩, hrest⟩ := List.forall_mem_cons.mp hkeyed
    obtain ⟨c', hc'⟩ := ih hrest (c.insert key object)
    exact ⟨c', puts_cons.mpr ⟨key, hkey, hc'⟩⟩

theorem extends_of_puts (hputs : objects.foldlM put c = .ok c')
    (hnew : ∀ o ∈ objects, ∀ key, Keyed o key → c.find? key = none) : c'.Extends c := by
  intro key object hf
  have hkeys : ∀ o ∈ objects, ¬ Keyed o key := by
    intro o ho hkeyed
    simp [hnew o ho key hkeyed] at hf
  rwa [find?_puts_other hputs hkeys]

theorem Extends.get (hext : c'.Extends c) (hg : c.get l = .ok object) : c'.get l = .ok object := by
  obtain ⟨key, hk, hf⟩ := get_eq_ok.mp hg
  exact get_eq_ok.mpr ⟨key, hk, hext key object hf⟩

end Cluster
end StageGate
