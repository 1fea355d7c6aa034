import StageGate.Value.Key

/-!
Keys of values. A key can be read off the front of a list of atoms, so that the atoms of a tuple's items
fall apart in one way only; hence two values that have keys are the same exactly when their keys are.
-/

namespace StageGate

/-- What is left of atoms behind the keys of some values. -/
def behindKeys : List KeyAtom → Nat → List KeyAtom
  | atoms, 0 => atoms
  | [], _ => []
  | .tuple length :: atoms, n + 1 => behindKeys atoms (n + length)
  | _ :: atoms, n + 1 => behindKeys atoms n

namespace Value

theorem keys?_cons {v : Value} {vs : List Value} {k : Key} :
    keys? (v :: vs) = some k ↔ ∃ first rest, v.key? = some first ∧ keys? vs = some rest ∧
      k = first ++ rest := by
  rw [keys?]
  cases v.key? with
  | none => simp
  | some first => cases keys? vs <;> simp [@eq_comm _ k]

theorem key?_tuple {vs : List Value} {k : Key} :
    (Value.tuple vs).key? = some k ↔ ∃ rest, keys? vs = some rest ∧ k = .tuple vs.length :: rest := by
  rw [key?]
  cases keys? vs <;> simp [@eq_comm _ k]

theorem behindKeys_floatAtom (x : Float) (atoms : List KeyAtom) (n : Nat) :
    behindKeys (floatAtom x :: atoms) (n + 1) = behindKeys atoms n := by
  unfold floatAtom
  split <;> rfl

theorem behindKeys_timestampAtom (t : Timestamp) (atoms : List KeyAtom) (n : Nat) :
    behindKeys (timestampAtom t :: atoms) (n + 1) = behindKeys atoms n := by
  unfold timestampAtom
  split <;> rfl

mutual

theorem behindKeys_key {v : Value} {k : Key} (hk : v.key? = some k) (atoms : List KeyAtom) (n : Nat) :
    behindKeys (k ++ atoms) (n + 1) = behindKeys atoms n := by
  match v with
  | .tuple vs =>
    obtain ⟨rest, hrest, rfl⟩ := key?_tuple.mp hk
    exact behindKeys_keys hrest atoms n
  | .float x =>
    cases hk
    exact behindKeys_floatAtom x atoms n
  | .timestamp t =>
    cases hk
    exact behindKeys_timestampAtom t atoms n
  | .null | .bool b | .int m | .str s | .bytes bs | .date d =>
    cases hk
    rfl
  | .list _ | .set _ | .map .. | .enclosing _ => simp [key?] at hk

theorem behindKeys_keys {vs : List Value} {k : Key} (hk : keys? vs = some k) (atoms : List KeyAtom)
    (n : Nat) : behindKeys (k ++ atoms) (n + vs.length) = behindKeys atoms n := by
  match vs with
  | [] =>
    cases hk
    rfl
  | v :: vs =>
    obtain ⟨first, rest, hfirst, hrest, rfl⟩ := keys?_cons.mp hk
    rw [List.append_assoc, List.length_cons, ← Nat.add_assoc, behindKeys_key hfirst]
    exact behindKeys_keys hrest atoms n

end

/-- Where atoms start with a key, they do so in one way only. -/
theorem key_append_inj {v w : Value} {k l : Key} {atoms atoms' : List KeyAtom} (hk : v.key? = some k)
    (hl : w.key? = some l) (heq : k ++ atoms = l ++ atoms') : k = l ∧ atoms = atoms' := by
  have hrest : atoms = atoms' := by
    have hbehind := congrArg (behindKeys · 1) heq
    simpa only [behindKeys_key hk, behindKeys_key hl, behindKeys] using hbehind
  subst hrest
  exact ⟨List.append_cancel_right heq, rfl⟩

theorem sameKey_eq_true_iff {v w : Value} :
    v.sameKey w = true ↔ ∃ key, v.key? = some key ∧ w.key? = some key := by
  unfold sameKey
  cases v.key? with
  | none => simp
  | some key =>
    cases w.key? with
    | none => simp
    | some key' => simpa using eq_comm

theorem sameKey_of_sameKey {u v w : Value} (hu : u.sameKey w = true) (hv : v.sameKey w = true) :
    u.sameKey v = true := by
  obtain ⟨key, hkeyU, hkeyW⟩ := sameKey_eq_true_iff.mp hu
  obtain ⟨key', hkeyV, hkeyW'⟩ := sameKey_eq_true_iff.mp hv
  cases hkeyW.symm.trans hkeyW'
  exact sameKey_eq_true_iff.mpr ⟨key, hkeyU, hkeyV⟩

theorem sameKey_iff {v w : Value} {k l : Key} (hk : v.key? = some k) (hl : w.key? = some l) :
    v.sameKey w = true ↔ k = l := by
  simp [sameKey, hk, hl]

mutual

/-- Values that have keys are the same exactly when their keys are. -/
theorem same_iff {v w : Value} {k l : Key} (hk : v.key? = some k) (hl : w.key? = some l) :
    v.same w = true ↔ k = l := by
  match v, w with
  | .tuple vs, .tuple ws =>
    obtain ⟨ks, hks, rfl⟩ := key?_tuple.mp hk
    obtain ⟨ls, hls, rfl⟩ := key?_tuple.mp hl
    rw [same, sameItems_iff hks hls]
    simp
  | .tuple _, .list _ | .tuple _, .set _ | .tuple _, .map .. | .tuple _, .enclosing _ =>
    simp [key?] at hl
  | .list _, _ | .set _, _ | .map .., _ | .enclosing _, _ => simp [key?] at hk
  | .tuple _, .null | .tuple _, .bool _ | .tuple _, .int _ | .tuple _, .float _ | .tuple _, .str _
  | .tuple _, .bytes _ | .tuple _, .date _ | .tuple _, .timestamp _ =>
    simpa only [same] using sameKey_iff hk hl
  | .null, w | .bool _, w | .int _, w | .float _, w | .str _, w | .bytes _, w | .date _, w
  | .timestamp _, w => simpa only [same] using sameKey_iff hk hl

theorem sameItems_iff {vs ws : List Value} {k l : Key} (hk : keys? vs = some k)
    (hl : keys? ws = some l) : sameItems vs ws = true ↔ vs.length = ws.length ∧ k = l := by
  match vs, ws with
  | [], [] =>
    cases hk
    cases hl
    simp [sameItems]
  | [], w :: ws | v :: vs, [] => simp [sameItems]
  | v :: vs, w :: ws =>
    obtain ⟨first, rest, hfirst, hrest, rfl⟩ := keys?_cons.mp hk
    obtain ⟨first', rest', hfirst', hrest', rfl⟩ := keys?_cons.mp hl
    rw [sameItems, Bool.and_eq_true, same_iff hfirst hfirst', sameItems_iff hrest hrest']
    constructor
    · rintro ⟨rfl, hlength, rfl⟩
      exact ⟨by simpa using hlength, rfl⟩
    · rintro ⟨hlength, heq⟩
      obtain ⟨rfl, rfl⟩ := key_append_inj hfirst hfirst' heq
      exact ⟨rfl, by simpa using hlength, rfl⟩

end

end Value
end StageGate
