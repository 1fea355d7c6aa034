import StageGate.Yaml.Reader

/-!
What a given text reads as. Values that are alike part by part are equal, and with that the documents of a
text can be found by reading it; a float is alike to none, and so are bytes, times and aliases.
-/

namespace StageGate

namespace Value

mutual

def alike : Value → Value → Bool
  | .null, .null => true
  | .bool b, .bool c => b == c
  | .int m, .int n => m == n
  | .str s, .str t => s == t
  | .list vs, .list ws => alikeItems vs ws
  | .map o es, .map p fs => o == p && alikeEntries es fs
  | _, _ => false

def alikeItems : List Value → List Value → Bool
  | [], [] => true
  | v :: vs, w :: ws => alike v w && alikeItems vs ws
  | _, _ => false

def alikeEntries : Mapping → Mapping → Bool
  | [], [] => true
  | (k, v) :: es, (l, w) :: fs => alike k l && alike v w && alikeEntries es fs
  | _, _ => false

end

mutual

theorem eq_of_alike {v w : Value} (h : alike v w = true) : v = w := by
  unfold alike at h
  split at h
  · rfl
  · rw [beq_iff_eq.mp h]
  · rw [beq_iff_eq.mp h]
  · rw [beq_iff_eq.mp h]
  · rw [eq_of_alikeItems h]
  · obtain ⟨ho, hes⟩ := Bool.and_eq_true_iff.mp h
    rw [beq_iff_eq.mp ho, eq_of_alikeEntries hes]
  · cases h

theorem eq_of_alikeItems {vs ws : List Value} (h : alikeItems vs ws = true) : vs = ws := by
  unfold alikeItems at h
  split at h
  · rfl
  · obtain ⟨hv, hvs⟩ := Bool.and_eq_true_iff.mp h
    rw [eq_of_alike hv, eq_of_alikeItems hvs]
  · cases h

theorem eq_of_alikeEntries {es fs : Mapping} (h : alikeEntries es fs = true) : es = fs := by
  unfold alikeEntries at h
  split at h
  · rfl
  · obtain ⟨hfirst, hes⟩ := Bool.and_eq_true_iff.mp h
    obtain ⟨hk, hv⟩ := Bool.and_eq_true_iff.mp hfirst
    rw [eq_of_alike hk, eq_of_alike hv, eq_of_alikeEntries hes]
  · cases h

end

end Value

theorem Yaml.documents_of_alike {text : String} {docs : List Value}
    (h : (Reader.documents text).toOption.any (Value.alikeItems docs) = true) :
    Reader.documents text = .ok docs := by
  cases hread : Reader.documents text with
  | error why => simp [hread, Except.toOption] at h
  | ok read =>
    have halike : Value.alikeItems docs read = true := by simpa [hread, Except.toOption] using h
    rw [Value.eq_of_alikeItems halike]

end StageGate
