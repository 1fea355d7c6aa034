import Mathlib.Data.List.Induction
import Mathlib.Data.Set.Card
import StageGate.Proofs.ClusterContents
import StageGate.Proofs.KeyEquality

/-!
The history of a cluster: whatever is put, deleted and looked up, a look-up finds the object of the last
put under its key that no delete of the key has followed. Keys are compared by the equality of values, and
a namespace that does not count as present is the same as none.
-/

namespace StageGate

/-- Two look-ups of the same kind and name, in the same namespace or both in none. -/
structure Lookup.Same (l l' : Lookup) : Prop where
  kind : l.kind.same l'.kind = true
  name : l.name.same l'.name = true
  namespaceName : (l.namespaceName.orElse .null).same (l'.namespaceName.orElse .null) = true

/-- Keys may be made of the kind, the name, and the namespace if there is one. -/
structure Lookup.Hashable (l : Lookup) : Prop where
  kind : l.kind.key?.isSome = true
  name : l.name.key?.isSome = true
  namespaceName : (l.namespaceName.orElse .null).key?.isSome = true

theorem Value.key?_of_present {v : Value} (hv : v.isPresent = true) : v.key? ≠ some [.null] := by
  cases v with
  | null => simp [isPresent] at hv
  | float x =>
    unfold key? floatAtom
    split <;> simp
  | timestamp t =>
    unfold key? timestampAtom
    split <;> simp
  | _ => simp [key?]

/-- The key of a namespace, null where there is none. -/
theorem key?_orElse_null {ns : Value} {place : Option Key} (hns : namespaceKey? ns = some place) :
    (ns.orElse .null).key? = some (place.getD [.null]) ∧ place ≠ some [.null] := by
  unfold namespaceKey? at hns
  cases hp : ns.isPresent with
  | false =>
    simp only [hp, Bool.false_eq_true, if_false, Option.some.injEq] at hns
    subst hns
    simp [Value.orElse, hp, Value.key?]
  | true =>
    simp only [hp, if_true, Option.map_eq_some_iff] at hns
    obtain ⟨k, hk, rfl⟩ := hns
    have hne := Value.key?_of_present hp
    rw [hk] at hne
    simp [Value.orElse, hp, hk, hne]

theorem Lookup.hashable_iff {l : Lookup} : l.Hashable ↔ ∃ key, l.key? = some key := by
  constructor
  · rintro ⟨hkind, hname, hns⟩
    obtain ⟨kind, hkind⟩ := Option.isSome_iff_exists.mp hkind
    obtain ⟨name, hname⟩ := Option.isSome_iff_exists.mp hname
    obtain ⟨place, hplace⟩ : ∃ place, namespaceKey? l.namespaceName = some place := by
      unfold namespaceKey?
      cases hp : l.namespaceName.isPresent with
      | false => exact ⟨none, rfl⟩
      | true =>
        obtain ⟨k, hk⟩ := Option.isSome_iff_exists.mp hns
        exact ⟨some k, by simpa [Value.orElse, hp] using hk⟩
    exact ⟨⟨kind, place, name⟩, Lookup.key?_eq_some.mpr ⟨hkind, hname, hplace⟩⟩
  · rintro ⟨key, hk⟩
    obtain ⟨hkind, hname, hns⟩ := Lookup.key?_eq_some.mp hk
    exact ⟨by simp [hkind], by simp [hname], by simp [(key?_orElse_null hns).1]⟩

/-- Look-ups that have keys are the same exactly when their keys are. -/
theorem Lookup.same_iff {l l' : Lookup} {key key' : ObjectKey} (hk : l.key? = some key)
    (hk' : l'.key? = some key') : l.Same l' ↔ key = key' := by
  obtain ⟨hkind, hname, hns⟩ := Lookup.key?_eq_some.mp hk
  obtain ⟨hkind', hname', hns'⟩ := Lookup.key?_eq_some.mp hk'
  obtain ⟨hplace, hne⟩ := key?_orElse_null hns
  obtain ⟨hplace', hne'⟩ := key?_orElse_null hns'
  obtain ⟨kind, ns, name⟩ := key
  obtain ⟨kind', ns', name'⟩ := key'
  have hplaces : ns.getD [.null] = ns'.getD [.null] ↔ ns = ns' := by
    cases ns with
    | none => cases ns' with
      | none => simp
      | some k' => simpa using fun heq => hne' (congrArg some heq.symm)
    | some k => cases ns' with
      | none => simpa using hne
      | some k' => simp
  constructor
  · rintro ⟨h₁, h₂, h₃⟩
    simp only [ObjectKey.mk.injEq]
    exact ⟨(Value.same_iff hkind hkind').mp h₁, hplaces.mp ((Value.same_iff hplace hplace').mp h₃),
      (Value.same_iff hname hname').mp h₂⟩
  · intro heq
    cases heq
    exact ⟨(Value.same_iff hkind hkind').mpr rfl, (Value.same_iff hname hname').mpr rfl,
      (Value.same_iff hplace hplace').mpr rfl⟩

namespace Cluster

inductive Operation where
  | put (object : Value)
  | delete (l : Lookup)
  | get (l : Lookup)

/-- The cluster after an operation, and what it gives back: the object that was asked for, nothing, or a
fault. -/
def perform (c : Cluster) : Operation → Cluster × Except Fault (Option Value)
  | .put object =>
    match c.put object with
    | .ok c' => (c', .ok none)
    | .error f => (c, .error f)
  | .delete l =>
    match c.delete l with
    | .ok c' => (c', .ok none)
    | .error f => (c, .error f)
  | .get l => (c, (c.get l).map some)

/-- A cluster that was empty before some operations. -/
def performed (ops : List Operation) : Cluster :=
  ops.foldl (fun c op => (c.perform op).1) .empty

/-- The operation puts an object of the kind, name and namespace of the look-up, or deletes what is found by
it. An object has its name and its namespace in its metadata, and has to have a name. -/
inductive Operation.Writes (l : Lookup) : Operation → Prop where
  | put {object es fields} (hes : object.entries? = some es) (hkind : es.has "kind" = true)
      (hfields : (es.get "metadata").entries? = some fields) (hname : (fields.get "name").isPresent = true)
      (hk : (Lookup.mk (es.get "kind") (fields.get "name") (fields.get "namespace")).Hashable)
      (hs : (Lookup.mk (es.get "kind") (fields.get "name") (fields.get "namespace")).Same l) :
      Writes l (.put object)
  | delete {l'} (hk : l'.Hashable) (hs : l'.Same l) : Writes l (.delete l')

/-- Of the operations that write under the key of the look-up it is the last. -/
def LastWrite (ops : List Operation) (l : Lookup) (op : Operation) : Prop :=
  ∃ before after, ops = before ++ op :: after ∧ op.Writes l ∧ ∀ later ∈ after, ¬ later.Writes l

/-- The objects have no key in common. -/
def Apart (object object' : Value) : Prop :=
  ∀ key, Keyed object key → ¬ Keyed object' key

variable {c c' : Cluster} {key : ObjectKey} {object o : Value} {objects objects' : List Value}
  {l : Lookup} {op : Operation} {ops : List Operation}

/-! What an operation does, by the key it writes under. -/

/-- Metadata that give a name are there. -/
theorem present_of_named {v : Value} {fields : Mapping} (hfields : v.entries? = some fields)
    (hname : (fields.get "name").isPresent = true) : v.isPresent = true := by
  have hne : fields ≠ [] := by
    rintro rfl
    cases hname
  cases v with
  | map ordered entries =>
    cases entries with
    | nil =>
      cases hfields
      exact absurd rfl hne
    | cons => rfl
  | _ => cases hfields

theorem lookupOf_of_named {es fields : Mapping} (hes : object.entries? = some es)
    (hkind : es.has "kind" = true) (hfields : (es.get "metadata").entries? = some fields)
    (hname : (fields.get "name").isPresent = true) :
    lookupOf object = .ok ⟨es.get "kind", fields.get "name", fields.get "namespace"⟩ :=
  lookupOf_eq_ok.mpr ⟨es, fields, hes, hkind, present_of_named hfields hname, hfields, hname, rfl⟩

theorem writes_put (hk : l.key? = some key) : (Operation.put object).Writes l ↔ Keyed object key := by
  constructor
  · rintro ⟨hes, hkind, hfields, hname, hhash, hs⟩
    obtain ⟨key', hk'⟩ := Lookup.hashable_iff.mp hhash
    refine ⟨_, lookupOf_of_named hes hkind hfields hname, ?_⟩
    exact hk'.trans (congrArg some ((Lookup.same_iff hk' hk).mp hs))
  · rintro ⟨l', hl, hk'⟩
    obtain ⟨es, fields, hes, hkind, -, hfields, hname, rfl⟩ := lookupOf_eq_ok.mp hl
    exact .put hes hkind hfields hname (Lookup.hashable_iff.mpr ⟨key, hk'⟩) ((Lookup.same_iff hk' hk).mpr rfl)

theorem writes_delete {l' : Lookup} (hk : l.key? = some key) :
    (Operation.delete l').Writes l ↔ l'.key? = some key := by
  constructor
  · rintro (_ | ⟨hhash, hs⟩)
    obtain ⟨key', hk'⟩ := Lookup.hashable_iff.mp hhash
    exact hk'.trans (congrArg some ((Lookup.same_iff hk' hk).mp hs))
  · intro hk'
    exact .delete (Lookup.hashable_iff.mpr ⟨key, hk'⟩) ((Lookup.same_iff hk' hk).mpr rfl)

theorem not_writes_get {l' : Lookup} : ¬ (Operation.get l').Writes l := nofun

theorem perform_put (c : Cluster) (hkeyed : Keyed object key) :
    c.perform (.put object) = (c.insert key object, .ok none) := by
  have hput : c.put object = .ok (c.insert key object) := put_eq_ok.mpr ⟨key, hkeyed, rfl⟩
  simp only [perform, hput]

theorem perform_delete {l' : Lookup} (c : Cluster) (hk : l'.key? = some key) :
    c.perform (.delete l') = (c.erase key, .ok none) := by
  simp only [perform, delete_of_key c hk]

/-- What lies under the key of an operation that puts or deletes there. -/
theorem find?_perform_writes (c : Cluster) (hk : l.key? = some key) (hw : op.Writes l) :
    (c.perform op).1.find? key = some object ↔ op = .put object := by
  cases op with
  | put o =>
    rw [perform_put c ((writes_put hk).mp hw)]
    simp
  | delete l' =>
    rw [perform_delete c ((writes_delete hk).mp hw)]
    simp [find?_erase_self]
  | get l' => exact absurd hw not_writes_get

/-- Under any other key nothing changes. -/
theorem find?_perform_other (c : Cluster) (hk : l.key? = some key) (hw : ¬ op.Writes l) :
    (c.perform op).1.find? key = c.find? key := by
  cases op with
  | put o =>
    simp only [perform]
    cases hput : c.put o with
    | error f => rfl
    | ok c' =>
      obtain ⟨key', hkeyed, rfl⟩ := put_eq_ok.mp hput
      have hne : key ≠ key' := fun heq => hw ((writes_put hk).mpr (heq ▸ hkeyed))
      exact find?_insert_other c hne o
  | delete l' =>
    simp only [perform]
    cases hdelete : c.delete l' with
    | error f => rfl
    | ok c' =>
      rcases delete_eq_ok.mp hdelete with ⟨key', hk', rfl⟩ | ⟨-, -, rfl⟩
      · have hne : key ≠ key' := fun heq => hw ((writes_delete hk).mpr (heq ▸ hk'))
        exact find?_erase_other c hne
      · rfl
  | get l' => rfl

theorem perform_of_error {f : Fault} (hf : (c.perform op).2 = .error f) : (c.perform op).1 = c := by
  cases op with
  | put o =>
    simp only [perform] at hf ⊢
    cases hput : c.put o with
    | error g => rfl
    | ok c' => simp [hput] at hf
  | delete l =>
    simp only [perform] at hf ⊢
    cases hdelete : c.delete l with
    | error g => rfl
    | ok c' => simp [hdelete] at hf
  | get l => rfl

/-- A put succeeds exactly when the object has a key to lie under. -/
theorem perform_put_ok : (c.perform (.put object)).2 = .ok none ↔ ∃ key, Keyed object key := by
  constructor
  · intro hok
    simp only [perform] at hok
    cases hput : c.put object with
    | error f => simp [hput] at hok
    | ok c' =>
      obtain ⟨key, hkeyed, -⟩ := put_eq_ok.mp hput
      exact ⟨key, hkeyed⟩
  · rintro ⟨key, hkeyed⟩
    rw [perform_put c hkeyed]

/-! Histories. -/

theorem performed_concat (ops : List Operation) (op : Operation) :
    performed (ops ++ [op]) = ((performed ops).perform op).1 := by
  simp [performed]

theorem lastWrite_concat {last : Operation} :
    LastWrite (ops ++ [last]) l op ↔ op = last ∧ last.Writes l ∨ ¬ last.Writes l ∧ LastWrite ops l op := by
  have hplace (ops : List Operation) : LastWrite ops l op ↔ ∃ before a after,
      ops = before ++ a :: after ∧ a = op ∧ op.Writes l ∧ ∀ later ∈ after, ¬ later.Writes l :=
    ⟨fun ⟨before, after, heq, hw⟩ => ⟨before, op, after, heq, rfl, hw⟩,
      fun ⟨before, _, after, heq, ha, hw⟩ => ⟨before, after, ha ▸ heq, hw⟩⟩
  rw [hplace, hplace, exists_place_concat]
  constructor
  · rintro (⟨rfl, hw, -⟩ | ⟨before, a, after, heq, ha, hw, hlater⟩)
    · exact .inl ⟨rfl, hw⟩
    · have hlast := hlater last (by simp)
      exact .inr ⟨hlast, before, a, after, heq, ha, hw, fun later hmem => hlater later (by simp [hmem])⟩
  · rintro (⟨rfl, hw⟩ | ⟨hlast, before, a, after, heq, ha, hw, hlater⟩)
    · exact .inl ⟨rfl, hw, by simp⟩
    · refine .inr ⟨before, a, after, heq, ha, hw, ?_⟩
      simpa [or_imp, forall_and, hlast] using hlater

/-- What lies under a key is what the last write there has put. -/
theorem find?_performed (hk : l.key? = some key) :
    (performed ops).find? key = some object ↔ LastWrite ops l (.put object) := by
  induction ops using List.reverseRecOn with
  | nil => simp [performed, find?, empty, LastWrite]
  | append_singleton ops op ih =>
    rw [performed_concat, lastWrite_concat]
    by_cases hw : op.Writes l
    · rw [find?_perform_writes _ hk hw]
      simp [hw, @eq_comm _ op]
    · rw [find?_perform_other _ hk hw, ih]
      simp [hw]

/-! The number of objects. -/

theorem exists_find? : (∃ object, c.find? key = some object) ↔ key ∈ c.objects.map Prod.fst := by
  rw [← Option.isSome_iff_exists]
  simp [find?, List.find?_isSome]

theorem size_eq_encard (hc : (c.objects.map Prod.fst).Nodup) :
    (c.size : ℕ∞) = {key | ∃ object, c.find? key = some object}.encard := by
  have hkeys : {key | ∃ object, c.find? key = some object} =
      ((c.objects.map Prod.fst).toFinset : Set ObjectKey) := by
    ext key
    simpa using exists_find?
  rw [hkeys, Set.encard_coe_eq_coe_finsetCard, List.toFinset_card_of_nodup hc, List.length_map, size]

theorem nodup_erase (hc : (c.objects.map Prod.fst).Nodup) (key : ObjectKey) :
    ((c.erase key).objects.map Prod.fst).Nodup :=
  hc.sublist (List.filter_sublist.map _)

theorem nodup_insert (hc : (c.objects.map Prod.fst).Nodup) (key : ObjectKey) (object : Value) :
    ((c.insert key object).objects.map Prod.fst).Nodup := by
  have hnew : key ∉ (c.erase key).objects.map Prod.fst := by
    rw [← exists_find?]
    simp [find?_erase_self]
  have hlast : ((c.insert key object).objects.map Prod.fst) =
      ((c.erase key).objects.map Prod.fst).concat key := by simp [insert]
  rw [hlast]
  exact (nodup_erase hc key).concat hnew

theorem Made.nodup (hc : Made c) : (c.objects.map Prod.fst).Nodup := by
  induction hc with
  | empty => exact List.nodup_nil
  | put _ hput ih =>
    obtain ⟨key, -, rfl⟩ := put_eq_ok.mp hput
    exact nodup_insert ih _ _
  | delete _ hdelete ih =>
    rcases delete_eq_ok.mp hdelete with ⟨key, -, rfl⟩ | ⟨-, -, rfl⟩
    · exact nodup_erase ih _
    · exact ih

theorem Made.perform (hc : Made c) (op : Operation) : Made (c.perform op).1 := by
  cases op with
  | put o =>
    simp only [Cluster.perform]
    cases hput : c.put o with
    | error f => exact hc
    | ok c' => exact hc.put hput
  | delete l =>
    simp only [Cluster.perform]
    cases hdelete : c.delete l with
    | error f => exact hc
    | ok c' => exact hc.delete hdelete
  | get l => exact hc

theorem made_performed (ops : List Operation) : Made (performed ops) := by
  induction ops using List.reverseRecOn with
  | nil => exact .empty
  | append_singleton ops op ih =>
    rw [performed_concat]
    exact ih.perform op

/-! Clusters that are made from objects. -/

theorem keyed_of_puts (hputs : objects.foldlM put c = .ok c') : ∀ o ∈ objects, ∃ key, Keyed o key := by
  induction objects generalizing c with
  | nil => simp
  | cons object objects ih =>
    obtain ⟨key, hkeyed, hrest⟩ := puts_cons.mp hputs
    exact List.forall_mem_cons.mpr ⟨⟨key, hkeyed⟩, ih hrest⟩

theorem perform_puts (hputs : objects.foldlM put c = .ok c') :
    (objects.map .put).foldl (fun c op => (c.perform op).1) c = c' := by
  induction objects generalizing c with
  | nil =>
    cases hputs
    rfl
  | cons object objects ih =>
    obtain ⟨key, hkeyed, hrest⟩ := puts_cons.mp hputs
    rw [List.map_cons, List.foldl_cons, perform_put c hkeyed]
    exact ih hrest

theorem Apart.symm (hapart : Apart object o) : Apart o object :=
  fun key hkeyed hkeyed' => hapart key hkeyed' hkeyed

instance : Std.Symm Apart := ⟨fun _ _ => Apart.symm⟩

/-- Objects with no key in common are all found, each under its own key. -/
theorem find?_ofObjects (hapart : objects.Pairwise Apart) (hc : ofObjects objects = .ok c) :
    c.find? key = some o ↔ o ∈ objects ∧ Keyed o key := by
  have hunique (o' : Value) (ho : o ∈ objects) (ho' : o' ∈ objects) (hk : Keyed o key)
      (hk' : Keyed o' key) : o' = o := by
    by_contra hne
    exact hapart.forall ho' ho hne key hk' hk
  constructor
  · intro hf
    by_cases hkeyed : ∃ o' ∈ objects, Keyed o' key
    · obtain ⟨o', ho', hk'⟩ := hkeyed
      obtain ⟨found, hmem, hk, hfound⟩ := find?_puts_self hc ho' hk'
      cases hf.symm.trans hfound
      exact ⟨hmem, hk⟩
    · have hnone := find?_puts_other hc fun o' ho' hk' => hkeyed ⟨o', ho', hk'⟩
      rw [hnone] at hf
      cases hf
  · rintro ⟨ho, hk⟩
    obtain ⟨found, hmem, hk', hfound⟩ := find?_puts_self hc ho hk
    rw [hfound, hunique found ho hmem hk hk']

/-- The order of objects with no key in common makes no difference. -/
theorem ofObjects_perm (hperm : objects.Perm objects') (hapart : objects.Pairwise Apart)
    (hc : ofObjects objects = .ok c) :
    ∃ c', ofObjects objects' = .ok c' ∧ c'.size = c.size ∧ ∀ l, c'.get l = c.get l := by
  have hkeyed : ∀ o ∈ objects', ∃ key, Keyed o key := fun o ho =>
    keyed_of_puts hc o (hperm.mem_iff.mpr ho)
  obtain ⟨c', hc'⟩ := exists_puts hkeyed .empty
  have hapart' : objects'.Pairwise Apart := (hperm.pairwise_iff Apart.symm).mp hapart
  have hfind (key : ObjectKey) : c'.find? key = c.find? key := by
    refine Option.ext fun o => ?_
    rw [find?_ofObjects hapart hc, find?_ofObjects hapart' hc', hperm.mem_iff]
  have hsize : (c'.size : ℕ∞) = c.size := by
    rw [size_eq_encard (Made.empty.puts hc').nodup, size_eq_encard (Made.empty.puts hc).nodup]
    simp only [hfind]
  exact ⟨c', hc', by exact_mod_cast hsize, fun l => get_congr fun key _ => hfind key⟩

/-- A cluster is a map that keeps the last write under each key. After any operations a look-up with a key
comes to the object that the last write there has put. Else it comes to nothing found, or, where the look-up
cannot be written, to a bad value. The objects are as many as the keys with such a put; an operation changes
no look-up but those under its own key, and nothing at all if it fails; and a cluster may be made from
objects with no key in common in any order. -/
theorem last_write_wins (ops : List Operation) :
    let c := performed ops
    (∀ l, l.Hashable →
      (∀ object, c.get l = .ok object ↔ LastWrite ops l (.put object)) ∧
      ((¬ ∃ object, LastWrite ops l (.put object)) →
        c.get l = .error (if l.isWritable then .notFound l.kind l.name l.namespaceName
          else .mismatch .badValue))) ∧
    (c.size : ℕ∞) = {key | ∃ l object, l.key? = some key ∧ LastWrite ops l (.put object)}.encard ∧
    (∀ op,
      (∀ l, ¬ op.Writes l → (c.perform op).1.get l = c.get l) ∧
      ∀ f, (c.perform op).2 = .error f → (c.perform op).1 = c) ∧
    (∀ object, (c.perform (.put object)).2 = .ok none ↔ ∃ l, (Operation.put object).Writes l) ∧
    ∀ objects made, ofObjects objects = .ok made → made = performed (objects.map .put) ∧
      (objects.Pairwise Apart → ∀ objects', objects.Perm objects' →
        ∃ made', ofObjects objects' = .ok made' ∧ made'.size = made.size ∧
          ∀ l, made'.get l = made.get l) := by
  intro c
  refine ⟨fun l hl => ?_, ?_, fun op => ⟨fun l hw => ?_, fun f hf => perform_of_error hf⟩,
    fun object => ?_, fun objects made hmade => ⟨(perform_puts hmade).symm, ?_⟩⟩
  · obtain ⟨key, hk⟩ := Lookup.hashable_iff.mp hl
    have hfind (object : Value) : c.find? key = some object ↔ LastWrite ops l (.put object) :=
      find?_performed hk
    simp only [← hfind, get_of_key hk]
    cases hf : c.find? key with
    | none => simp [Lookup.absence]
    | some o => simp
  · rw [size_eq_encard (made_performed ops).nodup]
    congr 1
    ext key
    constructor
    · rintro ⟨object, hf⟩
      obtain ⟨l, -, hk⟩ := (made_performed ops).keyed hf
      exact ⟨l, object, hk, (find?_performed hk).mp hf⟩
    · rintro ⟨l, object, hk, hw⟩
      exact ⟨object, (find?_performed hk).mpr hw⟩
  · exact get_congr fun key hk => find?_perform_other c hk hw
  · rw [perform_put_ok]
    constructor
    · rintro ⟨key, hkeyed⟩
      obtain ⟨l, -, hk⟩ := id hkeyed
      exact ⟨l, (writes_put hk).mpr hkeyed⟩
    · rintro ⟨l, ⟨hes, hkind, hfields, hname, hhash, -⟩⟩
      obtain ⟨key, hk⟩ := Lookup.hashable_iff.mp hhash
      exact ⟨key, _, lookupOf_of_named hes hkind hfields hname, hk⟩
  · exact fun hapart objects' hperm => ofObjects_perm hperm hapart hmade

/-- A name of 4301 digits, which is an integer that cannot be written. -/
def endlessName : Lookup := ⟨.str "Pod", .int (10 ^ 4300), .null⟩

/-- Not every look-up that finds nothing says so: one that cannot be written is a bad value instead. -/
theorem endlessName_not_reported :
    ¬ ∀ (ops : List Operation) (l : Lookup), l.Hashable →
      (¬ ∃ object, LastWrite ops l (.put object)) →
      (performed ops).get l = .error (.notFound l.kind l.name l.namespaceName) := by
  intro hreported
  have hhash : endlessName.Hashable := ⟨rfl, rfl, rfl⟩
  have hnever : ¬ ∃ object, LastWrite [] endlessName (.put object) := by
    rintro ⟨object, before, after, hops, -⟩
    simp at hops
  have hget := hreported [] endlessName hhash hnever
  have hwritable : endlessName.isWritable = false := by decide +kernel
  obtain ⟨key, hk⟩ := Lookup.hashable_iff.mp hhash
  rw [get_of_key hk] at hget
  simp [performed, find?, empty, Lookup.absence, hwritable] at hget

end Cluster
end StageGate
