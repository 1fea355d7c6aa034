import Mathlib.Data.Option.Basic
import StageGate.Proofs.MappingLookups
import StageGate.Proofs.SchemaChecks

/-!
Plain values are made of mappings whose keys are different, of lists and of scalars, with no aliases and no
undefined numbers. If two of them differ in the order of entries alone, at any depth, then they are equal,
and what they have under a key differs in that order alone.
-/

namespace StageGate
namespace Value

/-- The value can be a key, and no number in it is undefined. -/
def Scalar (v : Value) : Prop :=
  ∃ key, v.key? = some key ∧ .undefined ∉ key

inductive Plain : Value → Prop where
  | scalar {v} (hv : Scalar v) : Plain v
  | list {vs} (hvs : ∀ v ∈ vs, Plain v) : Plain (.list vs)
  | map {es} (hdistinct : Mapping.Distinct es) (hkeys : ∀ e ∈ es, Scalar e.1)
      (hvs : ∀ e ∈ es, Plain e.2) : Plain (.map false es)

/-- The values are the same but for the order of entries, at any depth. -/
inductive Reordered : Value → Value → Prop where
  | refl (v) : Reordered v v
  | order {es fs} (horder : es.Perm fs) : Reordered (.map false es) (.map false fs)
  | entry {before k v w after} (hv : Reordered v w) :
      Reordered (.map false (before ++ (k, v) :: after)) (.map false (before ++ (k, w) :: after))
  | item {before v w after} (hv : Reordered v w) :
      Reordered (.list (before ++ v :: after)) (.list (before ++ w :: after))
  | trans {u v w} (huv : Reordered u v) (hvw : Reordered v w) : Reordered u w

variable {v w : Value} {vs : List Value} {es fs : Mapping}

/-! Plain values have no aliases to resolve. -/

mutual

theorem unfold_of_key {v : Value} {k : Key} (hk : v.key? = some k) (container : Value) (depth : Nat) :
    unfold container depth v = v := by
  match v with
  | .tuple vs =>
    obtain ⟨rest, hrest, rfl⟩ := key?_tuple.mp hk
    rw [unfold, unfoldItems_of_keys hrest]
  | .null | .bool _ | .int _ | .float _ | .str _ | .bytes _ | .date _ | .timestamp _ => rfl
  | .list _ | .set _ | .map .. | .enclosing _ => simp [key?] at hk

theorem unfoldItems_of_keys {vs : List Value} {k : Key} (hk : keys? vs = some k) (container : Value)
    (depth : Nat) : unfoldItems container depth vs = vs := by
  match vs with
  | [] => rfl
  | v :: vs =>
    obtain ⟨first, rest, hfirst, hrest, rfl⟩ := keys?_cons.mp hk
    rw [unfoldItems, unfold_of_key hfirst, unfoldItems_of_keys hrest]

end

theorem unfoldItems_of_forall {container : Value} {depth : Nat}
    (hvs : ∀ v ∈ vs, unfold container depth v = v) : unfoldItems container depth vs = vs := by
  induction vs with
  | nil => rfl
  | cons v vs ih =>
    obtain ⟨hv, hvs⟩ := List.forall_mem_cons.mp hvs
    rw [unfoldItems, hv, ih hvs]

theorem unfoldEntries_of_forall {container : Value} {depth : Nat}
    (hes : ∀ e ∈ es, unfold container depth e.2 = e.2) : unfoldEntries container depth es = es := by
  induction es with
  | nil => rfl
  | cons e es ih =>
    obtain ⟨he, hes⟩ := List.forall_mem_cons.mp hes
    rw [unfoldEntries, he, ih hes]

theorem Plain.unfold_eq (hv : Plain v) (container : Value) (depth : Nat) :
    unfold container depth v = v := by
  induction hv generalizing depth with
  | scalar hv =>
    obtain ⟨key, hkey, -⟩ := hv
    exact unfold_of_key hkey container depth
  | list _ ih => rw [unfold, unfoldItems_of_forall fun v hv => ih v hv (depth + 1)]
  | map _ _ _ ih => rw [unfold, unfoldEntries_of_forall fun e he => ih e he (depth + 1)]

theorem plain_list_iff : Plain (.list vs) ↔ ∀ v ∈ vs, Plain v := by
  constructor
  · intro hvs
    cases hvs with
    | scalar hkey => obtain ⟨_, ⟨⟩, -⟩ := hkey
    | list hvs => exact hvs
  · exact .list

theorem plain_map_iff : Plain (.map false es) ↔ Mapping.Distinct es ∧
    (∀ e ∈ es, Scalar e.1) ∧ ∀ e ∈ es, Plain e.2 := by
  constructor
  · intro hes
    cases hes with
    | scalar hkey => obtain ⟨_, ⟨⟩, -⟩ := hkey
    | map hdistinct hkeys hvs => exact ⟨hdistinct, hkeys, hvs⟩
  · rintro ⟨hdistinct, hkeys, hvs⟩
    exact .map hdistinct hkeys hvs

theorem Plain.items_eq (hvs : Plain (.list vs)) : (Value.list vs).items? = some vs := by
  have hitems := plain_list_iff.mp hvs
  rw [items?, unfoldItems_of_forall fun v hv => (hitems v hv).unfold_eq _ _]

theorem Plain.entries_eq (hes : Plain (.map false es)) : (Value.map false es).entries? = some es := by
  obtain ⟨-, -, hvs⟩ := plain_map_iff.mp hes
  rw [entries?, unfoldEntries_of_forall fun e he => (hvs e he).unfold_eq _ _]

/-- A plain value with entries is the mapping of them. -/
theorem Plain.eq_map (hv : Plain v) (hes : v.entries? = some es) : v = .map false es := by
  cases hv with
  | scalar hkey =>
    obtain ⟨_, hkey, -⟩ := hkey
    cases v <;> simp [entries?, key?] at hes hkey
  | list => cases hes
  | map hdistinct hkeys hvs =>
    cases (Plain.map hdistinct hkeys hvs).entries_eq.symm.trans hes
    rfl

/-- A plain value with items is the list of them. -/
theorem Plain.eq_list (hv : Plain v) (hvs : v.items? = some vs) : v = .list vs := by
  cases hv with
  | scalar hkey =>
    obtain ⟨_, hkey, -⟩ := hkey
    cases v <;> simp [items?, key?] at hvs hkey
  | list hitems =>
    cases (Plain.list hitems).items_eq.symm.trans hvs
    rfl
  | map => cases hvs

/-! Plain values are equal to themselves. -/

theorem sameItems_self (hvs : ∀ v ∈ vs, v.same v = true) : sameItems vs vs = true := by
  induction vs with
  | nil => rw [sameItems]
  | cons v vs ih =>
    obtain ⟨hv, hvs⟩ := List.forall_mem_cons.mp hvs
    rw [sameItems, hv, ih hvs, Bool.and_self]

theorem sameEntries_of_forall (hes : ∀ e ∈ es, ∃ w, fs.find? e.1 = some w ∧ e.2.same w = true) :
    sameEntries es fs = true := by
  induction es with
  | nil => rw [sameEntries]
  | cons e es ih =>
    obtain ⟨k, v⟩ := e
    obtain ⟨⟨w, hfind, hsame⟩, hes⟩ := List.forall_mem_cons.mp hes
    simp only [sameEntries, hfind, hsame, ih hes, Bool.and_self]

theorem Scalar.sameKey_self (hv : Scalar v) : v.sameKey v = true := by
  obtain ⟨key, hkey, -⟩ := hv
  exact sameKey_eq_true_iff.mpr ⟨key, hkey, hkey⟩

theorem Plain.same_self (hv : Plain v) : v.same v = true := by
  induction hv with
  | scalar hv =>
    obtain ⟨key, hkey, -⟩ := hv
    exact (same_iff hkey hkey).mpr rfl
  | list _ ih =>
    rw [same]
    exact sameItems_self ih
  | map hdistinct hkeys _ ih =>
    have hentries := sameEntries_of_forall fun e he =>
      ⟨e.2, (Mapping.find?_eq_some_iff hdistinct).mpr ⟨e.1, he, (hkeys e he).sameKey_self⟩, ih e he⟩
    simp [same, hentries]

/-! What the order of entries leaves as it is. -/

namespace Reordered

/-- Only mappings and lists can be put in another order. -/
theorem eq_or_collections (h : Reordered v w) :
    v = w ∨ (∃ es fs, v = .map false es ∧ w = .map false fs) ∨ ∃ vs ws, v = .list vs ∧ w = .list ws := by
  induction h with
  | refl v => exact .inl rfl
  | order => exact .inr (.inl ⟨_, _, rfl, rfl⟩)
  | entry => exact .inr (.inl ⟨_, _, rfl, rfl⟩)
  | item => exact .inr (.inr ⟨_, _, rfl, rfl⟩)
  | trans _ _ ih ih' =>
    rcases ih with rfl | ⟨es, fs, rfl, rfl⟩ | ⟨vs, ws, rfl, rfl⟩
    · exact ih'
    · rcases ih' with rfl | ⟨_, gs, -, rfl⟩ | ⟨_, _, heq, -⟩
      · exact .inr (.inl ⟨_, _, rfl, rfl⟩)
      · exact .inr (.inl ⟨_, _, rfl, rfl⟩)
      · cases heq
    · rcases ih' with rfl | ⟨_, _, heq, -⟩ | ⟨_, us, -, rfl⟩
      · exact .inr (.inr ⟨_, _, rfl, rfl⟩)
      · cases heq
      · exact .inr (.inr ⟨_, _, rfl, rfl⟩)

theorem key?_eq (h : Reordered v w) : v.key? = w.key? := by
  rcases h.eq_or_collections with rfl | ⟨es, fs, rfl, rfl⟩ | ⟨vs, ws, rfl, rfl⟩ <;> rfl

theorem eq_str_iff (h : Reordered v w) {s : String} : v = .str s ↔ w = .str s := by
  rw [← key?_eq_str, h.key?_eq, key?_eq_str]

theorem symm (h : Reordered v w) : Reordered w v := by
  induction h with
  | refl v => exact refl v
  | order horder => exact order horder.symm
  | entry _ ih => exact entry ih
  | item _ ih => exact item ih
  | trans _ _ ih ih' => exact trans ih' ih

theorem plain (h : Reordered v w) (hv : Plain v) : Plain w := by
  induction h with
  | refl v => exact hv
  | order horder =>
    obtain ⟨hdistinct, hkeys, hvs⟩ := plain_map_iff.mp hv
    simp only [horder.mem_iff] at hkeys hvs
    exact .map (hdistinct.perm horder) hkeys hvs
  | entry _ ih =>
    obtain ⟨hdistinct, hkeys, hvs⟩ := plain_map_iff.mp hv
    simp only [List.forall_mem_append, List.forall_mem_cons] at hkeys hvs
    obtain ⟨hbefore, hmiddle, hafter⟩ := hvs
    refine .map (hdistinct.replaced _) ?_ ?_
    · simpa only [List.forall_mem_append, List.forall_mem_cons] using hkeys
    · simpa only [List.forall_mem_append, List.forall_mem_cons] using ⟨hbefore, ih hmiddle, hafter⟩
  | item _ ih =>
    rw [plain_list_iff] at hv ⊢
    simp only [List.forall_mem_append, List.forall_mem_cons] at hv ⊢
    obtain ⟨hbefore, hmiddle, hafter⟩ := hv
    exact ⟨hbefore, ih hmiddle, hafter⟩
  | trans _ _ ih ih' => exact ih' (ih hv)

theorem exists_entries (h : Reordered v w) (hes : v.entries? = some es) : ∃ fs, w.entries? = some fs := by
  rcases h.eq_or_collections with rfl | ⟨_, gs, rfl, rfl⟩ | ⟨_, _, rfl, -⟩
  · exact ⟨es, hes⟩
  · exact ⟨_, rfl⟩
  · cases hes

/-- What the entries of one mapping hold under a key is related to what those of the other do. -/
theorem find?_rel (h : Reordered v w) (hv : Plain v) (hes : v.entries? = some es)
    (hfs : w.entries? = some fs) (k : Value) : Option.Rel Reordered (es.find? k) (fs.find? k) := by
  induction h generalizing es fs with
  | refl v =>
    cases hes.symm.trans hfs
    exact rel_refl refl _
  | order horder =>
    cases hv.entries_eq.symm.trans hes
    cases ((order horder).plain hv).entries_eq.symm.trans hfs
    obtain ⟨hdistinct, -, -⟩ := plain_map_iff.mp hv
    rw [Mapping.find?_perm hdistinct horder]
    exact rel_refl refl _
  | @entry before l v w after hmiddle _ =>
    cases hv.entries_eq.symm.trans hes
    cases ((entry hmiddle).plain hv).entries_eq.symm.trans hfs
    exact Mapping.find?_replaced refl hmiddle before after l k
  | item => cases hes
  | trans huv _ ih ih' =>
    obtain ⟨gs, hgs⟩ := huv.exists_entries hes
    exact rel_trans (fun _ _ _ => trans) (ih hv hes hgs) (ih' (huv.plain hv) hgs hfs)

theorem get?_rel (h : Reordered v w) (hv : Plain v) (hes : v.entries? = some es)
    (hfs : w.entries? = some fs) (key : String) : Option.Rel Reordered (es.get? key) (fs.get? key) := by
  rw [Mapping.get?_eq_find?, Mapping.get?_eq_find?]
  exact h.find?_rel hv hes hfs (.str key)

theorem get (h : Reordered v w) (hv : Plain v) (hes : v.entries? = some es) (hfs : w.entries? = some fs)
    (key : String) : Reordered (es.get key) (fs.get key) := by
  have hrel := h.get?_rel hv hes hfs key
  rw [Mapping.get, Mapping.get]
  generalize es.get? key = found, fs.get? key = found' at hrel
  cases hrel with
  | none => exact refl .null
  | some hvw => exact hvw

theorem has_eq (h : Reordered v w) (hv : Plain v) (hes : v.entries? = some es) (hfs : w.entries? = some fs)
    (key : String) : es.has key = fs.has key := by
  have hrel := h.get?_rel hv hes hfs key
  rw [Mapping.has, Mapping.has]
  generalize es.get? key = found, fs.get? key = found' at hrel
  cases hrel <;> rfl

end Reordered

/-- What a plain mapping has under a key is plain. -/
theorem Plain.get (hv : Plain v) (hes : v.entries? = some es) (key : String) : Plain (es.get key) := by
  obtain rfl := hv.eq_map hes
  obtain ⟨-, -, hvs⟩ := plain_map_iff.mp hv
  cases hhas : es.has key with
  | true => exact hvs _ (Mapping.mem_of_has hhas)
  | false =>
    have hnone : es.get? key = none := by simpa [Mapping.has] using hhas
    rw [Mapping.get, hnone]
    exact .scalar ⟨[.null], rfl, by simp⟩

/-! Equality with another value. -/

/-- Equality with any other value does not tell the two apart. -/
def Alike (v w : Value) : Prop :=
  ∀ u : Value, u.same v = u.same w

theorem sameItems_replaced (hv : Alike v w) (us before after : List Value) :
    sameItems us (before ++ v :: after) = sameItems us (before ++ w :: after) := by
  induction before generalizing us with
  | nil => cases us <;> simp [sameItems, hv _]
  | cons first before ih => cases us <;> simp [sameItems, ih]

theorem sameEntries_congr (hes : ∀ k, Option.Rel Alike (es.find? k) (fs.find? k)) (us : Mapping) :
    sameEntries us es = sameEntries us fs := by
  induction us with
  | nil => simp only [sameEntries]
  | cons e us ih =>
    obtain ⟨k, u⟩ := e
    have hk := hes k
    rw [sameEntries, sameEntries, ih]
    generalize es.find? k = found, fs.find? k = found' at hk
    cases hk with
    | none => rfl
    | some halike => simp only [halike u]

theorem same_map (ordered : Bool) (us es : Mapping) :
    (Value.map ordered us).same (.map false es) = Mapping.same us es := by
  cases ordered <;> simp [same, Mapping.same]

theorem alike_maps (hlength : es.length = fs.length)
    (hes : ∀ k, Option.Rel Alike (es.find? k) (fs.find? k)) : Alike (.map false es) (.map false fs) := by
  intro u
  cases u with
  | map ordered us => rw [same_map, same_map, Mapping.same, Mapping.same, hlength, sameEntries_congr hes]
  | _ => simp [same, sameKey, key?]

theorem Reordered.alike (h : Reordered v w) (hv : Plain v) : Alike v w := by
  -- any third value is allowed for, so the steps chain without equality being transitive
  induction h with
  | refl v => exact fun u => rfl
  | order horder =>
    obtain ⟨hdistinct, -, -⟩ := plain_map_iff.mp hv
    refine alike_maps horder.length_eq fun k => ?_
    rw [Mapping.find?_perm hdistinct horder]
    exact rel_refl (fun _ _ => rfl) _
  | @entry before l v w after _ ih =>
    obtain ⟨-, -, hvs⟩ := plain_map_iff.mp hv
    have hmiddle := hvs (l, v) (by simp)
    refine alike_maps (by simp) fun k => ?_
    exact Mapping.find?_replaced (fun _ _ => rfl) (ih hmiddle) before after l k
  | @item before v w after _ ih =>
    have hmiddle := plain_list_iff.mp hv v (by simp)
    intro u
    cases u with
    | list us => simp only [same, sameItems_replaced (ih hmiddle)]
    | _ => simp [same, sameKey, key?]
  | trans huv _ ih ih' => exact fun u => (ih hv u).trans (ih' (huv.plain hv) u)

theorem Reordered.same (h : Reordered v w) (hv : Plain v) : v.same w = true := by
  rw [← h.alike hv, hv.same_self]

end Value
end StageGate
