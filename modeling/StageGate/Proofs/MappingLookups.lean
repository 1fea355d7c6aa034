import Mathlib.Data.List.Perm.Basic
import StageGate.Proofs.Computations
import StageGate.Proofs.KeyEquality

/-!
Look-ups in mappings. A textual key is found like any other key, an entry that is put in place of another
leaves what is under other keys alone, and where all keys are different their order does not matter.
-/

namespace StageGate

namespace Value

theorem key?_eq_str {v : Value} {s : String} : v.key? = some [.str s] ↔ v = .str s := by
  constructor
  · intro hk
    cases v with
    | float x =>
      simp only [key?, floatAtom] at hk
      split at hk <;> simp at hk
    | timestamp t =>
      simp only [key?, timestampAtom] at hk
      split at hk <;> simp at hk
    | tuple vs =>
      obtain ⟨rest, -, heq⟩ := key?_tuple.mp hk
      simp at heq
    | str t => simpa [key?] using hk
    | _ => simp [key?] at hk
  · rintro rfl
    rfl

theorem sameKey_str {v : Value} {s : String} : v.sameKey (.str s) = true ↔ v = .str s := by
  rw [sameKey_eq_true_iff, ← key?_eq_str]
  simp [key?]

theorem sameKey_comm (v w : Value) : v.sameKey w = w.sameKey v := by
  rw [Bool.eq_iff_iff, sameKey_eq_true_iff, sameKey_eq_true_iff]
  simp only [and_comm]

end Value

namespace Mapping
variable {es fs before after : Mapping} {k v w : Value} {key other : String} {keys : List String}

@[simp]
theorem get?_nil (key : String) : get? [] key = none := rfl

theorem get?_cons_self (key : String) (v : Value) (es : Mapping) :
    get? ((.str key, v) :: es) key = some v := by
  simp [get?]

theorem get?_cons_other (hk : k ≠ .str key) (v : Value) (es : Mapping) :
    get? ((k, v) :: es) key = get? es key := by
  cases k with
  | str text =>
    have hne : (text == key) = false := by simpa using hk
    simp [get?, hne]
  | _ => rfl

theorem get?_eq_find? (es : Mapping) (key : String) : es.get? key = es.find? (.str key) := by
  induction es with
  | nil => rfl
  | cons e es ih =>
    obtain ⟨k, v⟩ := e
    by_cases hk : k = .str key
    · subst hk
      have hsame := Value.sameKey_str.mpr (rfl : Value.str key = .str key)
      simp [get?_cons_self, find?, hsame]
    · have hsame : k.sameKey (.str key) = false := by simpa using mt Value.sameKey_str.mp hk
      rw [get?_cons_other hk, ih]
      simp [find?, hsame]

/-- What stands before and after an entry decides on the other keys. -/
theorem get?_middle (hk : k ≠ .str key) (before after : Mapping) (v : Value) :
    get? (before ++ (k, v) :: after) key = get? (before ++ after) key := by
  induction before with
  | nil => exact get?_cons_other hk v after
  | cons e before ih =>
    obtain ⟨l, w⟩ := e
    by_cases hl : l = .str key
    · subst hl
      simp [get?_cons_self]
    · simp only [List.cons_append, get?_cons_other hl, ih]

/-- A value that is put under a key which is there takes the place of the first one under it. -/
theorem exists_insert_eq (hv : es.get? key = some v) (w : Value) :
    ∃ before after, es = before ++ (.str key, v) :: after ∧
      es.insert (.str key) w = before ++ (.str key, w) :: after := by
  induction es with
  | nil => simp at hv
  | cons e es ih =>
    obtain ⟨k, u⟩ := e
    by_cases hk : k = .str key
    · subst hk
      obtain rfl : u = v := by simpa [get?_cons_self] using hv
      have hsame := Value.sameKey_str.mpr (rfl : Value.str key = .str key)
      exact ⟨[], es, rfl, by simp [insert, hsame]⟩
    · have hsame : k.sameKey (.str key) = false := by simpa using mt Value.sameKey_str.mp hk
      rw [get?_cons_other hk] at hv
      obtain ⟨before, after, rfl, hinsert⟩ := ih hv
      exact ⟨(k, u) :: before, after, rfl, by simp [insert, hsame, hinsert]⟩

theorem get?_insert_self (es : Mapping) (key : String) (w : Value) :
    (es.insert (.str key) w).get? key = some w := by
  have hself := Value.sameKey_str.mpr (rfl : Value.str key = .str key)
  induction es with
  | nil => exact get?_cons_self key w []
  | cons e es ih =>
    obtain ⟨k, u⟩ := e
    rw [insert]
    split
    · rename_i hk
      obtain rfl := Value.sameKey_str.mp hk
      exact get?_cons_self key w es
    · rename_i hk
      rw [get?_cons_other (mt Value.sameKey_str.mpr hk), ih]

theorem get?_insert_other (hne : other ≠ key) (es : Mapping) (w : Value) :
    (es.insert (.str key) w).get? other = es.get? other := by
  have hkeys : Value.str key ≠ .str other := by simpa using hne.symm
  induction es with
  | nil => exact get?_cons_other hkeys w []
  | cons e es ih =>
    obtain ⟨k, u⟩ := e
    rw [insert]
    split
    · rename_i hk
      obtain rfl := Value.sameKey_str.mp hk
      rw [get?_cons_other hkeys, get?_cons_other hkeys]
    · by_cases hk : k = .str other
      · subst hk
        simp only [get?_cons_self]
      · rw [get?_cons_other hk, get?_cons_other hk, ih]

theorem has_insert (hv : es.get? key = some v) (w : Value) (other : String) :
    (es.insert (.str key) w).has other = es.has other := by
  by_cases heq : other = key
  · subst heq
    simp [has, get?_insert_self, hv]
  · rw [has, has, get?_insert_other heq]

/-- An entry in the middle holds of what all hold of. -/
theorem forall_middle {P : Value → Value → Prop} :
    (∀ l w, (l, w) ∈ before ++ (k, v) :: after → P l w) ↔
      P k v ∧ ∀ l w, (l, w) ∈ before ++ after → P l w := by
  constructor
  · intro hall
    refine ⟨hall k v (by simp), fun l w hmem => hall l w ?_⟩
    rcases List.mem_append.mp hmem with hmem | hmem <;> simp [hmem]
  · rintro ⟨hmiddle, hrest⟩ l w hmem
    rcases List.mem_append.mp hmem with hmem | hmem
    · exact hrest l w (by simp [hmem])
    · rcases List.mem_cons.mp hmem with heq | hmem
      · cases heq
        exact hmiddle
      · exact hrest l w (by simp [hmem])

/-! Mappings that agree under some keys. -/

/-- The mappings have the same values under the keys. -/
def AgreeOn (keys : List String) (es fs : Mapping) : Prop :=
  ∀ key ∈ keys, fs.get? key = es.get? key

theorem AgreeOn.get_eq (h : AgreeOn keys es fs) (hkey : key ∈ keys) : fs.get key = es.get key := by
  rw [get, get, h key hkey]

theorem AgreeOn.has_eq (h : AgreeOn keys es fs) (hkey : key ∈ keys) : fs.has key = es.has key := by
  rw [has, has, h key hkey]

theorem agreeOn_insert (hkey : key ∉ keys) (es : Mapping) (w : Value) :
    AgreeOn keys es (es.insert (.str key) w) := by
  intro other hother
  apply get?_insert_other
  rintro rfl
  exact hkey hother

theorem agreeOn_middle (hkey : key ∉ keys) (before after : Mapping) (v : Value) :
    AgreeOn keys (before ++ after) (before ++ (.str key, v) :: after) := by
  intro other hother
  apply get?_middle
  intro heq
  cases heq
  exact hkey hother

/-! Mappings whose keys are all different. -/

def Distinct (es : Mapping) : Prop :=
  es.Pairwise fun e f => e.1.sameKey f.1 = false

theorem Distinct.perm (hdistinct : Distinct es) (horder : es.Perm fs) : Distinct fs := by
  refine (horder.pairwise_iff ?_).mp hdistinct
  intro e f hef
  rwa [Value.sameKey_comm]

/-- The keys alone decide whether they are different. -/
theorem Distinct.replaced (hdistinct : Distinct (before ++ (k, v) :: after)) (w : Value) :
    Distinct (before ++ (k, w) :: after) := by
  simpa [Distinct, List.pairwise_append] using hdistinct

/-- Where all keys are different, an entry under the key is the one that is found. -/
theorem find?_eq_some_iff (hdistinct : Distinct es) :
    es.find? k = some v ↔ ∃ l, (l, v) ∈ es ∧ l.sameKey k = true := by
  constructor
  · intro hfind
    obtain ⟨⟨l, u⟩, hfound, rfl⟩ := Option.map_eq_some_iff.mp hfind
    have hsame : l.sameKey k = true := by simpa using List.find?_some hfound
    exact ⟨l, List.mem_of_find?_eq_some hfound, hsame⟩
  · rintro ⟨l, hmem, hl⟩
    induction es with
    | nil => cases hmem
    | cons e es ih =>
      obtain ⟨hfirst, hrest⟩ := List.pairwise_cons.mp hdistinct
      rcases List.mem_cons.mp hmem with rfl | hmem
      · simp [find?, hl]
      · have he : e.1.sameKey k = false := by
          by_contra hsame
          have hdiffers := hfirst _ hmem
          simp [Value.sameKey_of_sameKey (by simpa using hsame) hl] at hdiffers
        simpa [find?, he] using ih hrest hmem

theorem find?_perm (hdistinct : Distinct es) (horder : es.Perm fs) (k : Value) :
    es.find? k = fs.find? k := by
  ext v
  rw [find?_eq_some_iff hdistinct, find?_eq_some_iff (hdistinct.perm horder)]
  simp only [horder.mem_iff]

/-! Mappings with related values under the same keys. -/

theorem find?_replaced {R : Value → Value → Prop} (hrefl : ∀ u, R u u) (hv : R v w) (before after : Mapping)
    (k l : Value) :
    Option.Rel R (find? (before ++ (k, v) :: after) l) (find? (before ++ (k, w) :: after) l) := by
  induction before with
  | nil =>
    cases hk : k.sameKey l with
    | true => simpa [find?, hk] using hv
    | false => simpa [find?, hk] using rel_refl hrefl (find? after l)
  | cons e before ih =>
    cases he : e.1.sameKey l with
    | true => simpa [find?, he] using hrefl e.2
    | false => simpa [find?, he] using ih

end Mapping
end StageGate
