import Mathlib.Data.List.Basic
import StageGate.CommandLine.Run

/-!
Texts of identities. A text is read as an identity just if it is a name, or a namespace and a name with one
slash between them; the empty text is read too, though it names nothing. What is read from any other text
is read again from its own text.
-/

namespace StageGate
open CommandLine (identityOf)

namespace Identity

/-- A part of the text of an identity: it is not empty, and it holds no slash. -/
structure IsPart (part : String) : Prop where
  named : part ≠ ""
  slashless : '/' ∉ part.toList

/-- How the text of an identity is written: as a name in the namespace that goes without saying, or with
its namespace. -/
inductive Written : String → Identity → Prop where
  | short {name} (hname : IsPart name) : Written name ⟨defaultNamespace, name⟩
  | full {ns name} (hns : IsPart ns) (hname : IsPart name) : Written (ns ++ "/" ++ name) ⟨ns, name⟩

/-- The namespace and the name of an identity can be told apart in its text. -/
structure Named (i : Identity) : Prop where
  namespaceName : IsPart i.namespaceName
  name : IsPart i.name

/-- The identity that the empty text is read as. -/
def nameless : Identity :=
  ⟨defaultNamespace, ""⟩

variable {s front back : String} {i k : Identity} {f : Fault}

theorem isPart_iff {part : String} : IsPart part ↔ part ≠ "" ∧ '/' ∉ part.toList :=
  ⟨fun h => ⟨h.named, h.slashless⟩, fun h => ⟨h.1, h.2⟩⟩

theorem isPart_defaultNamespace : IsPart defaultNamespace :=
  ⟨by decide, by decide⟩

theorem toList_slashed (front back : String) :
    (front ++ "/" ++ back).toList = front.toList ++ '/' :: back.toList := by
  simp

theorem bne_slash {cs : List Char} (hcs : '/' ∉ cs) : ∀ c ∈ cs, (c != '/') = true := by
  intro c hc
  simpa using ne_of_mem_of_not_mem hc hcs

/-- A text holds no slash, or it is split at the first one. -/
theorem slashless_or_split (s : String) :
    '/' ∉ s.toList ∨ ∃ front back : String, '/' ∉ front.toList ∧ s = front ++ "/" ++ back := by
  by_cases hslash : '/' ∈ s.toList
  · obtain ⟨front, back, hs, hfront⟩ := List.eq_append_cons_of_mem hslash
    refine .inr ⟨String.ofList front, String.ofList back, by simpa using hfront, ?_⟩
    rw [← String.toList_inj]
    simpa using hs
  · exact .inl hslash

theorem parse?_slashless (hs : '/' ∉ s.toList) : parse? s = some ⟨defaultNamespace, s⟩ := by
  have hrest : s.toList.dropWhile (· != '/') = [] := by
    rw [← List.append_nil s.toList, List.dropWhile_append_of_pos (bne_slash hs), List.dropWhile_nil]
  simp [parse?, hrest]

theorem parse?_split (hfront : '/' ∉ front.toList) :
    parse? (front ++ "/" ++ back) = some i ↔ IsPart front ∧ IsPart back ∧ i = ⟨front, back⟩ := by
  have hfirst : (front ++ "/" ++ back).toList.takeWhile (· != '/') = front.toList := by
    rw [toList_slashed, List.takeWhile_append_of_pos (bne_slash hfront)]
    simp
  have hrest : (front ++ "/" ++ back).toList.dropWhile (· != '/') = '/' :: back.toList := by
    rw [toList_slashed, List.dropWhile_append_of_pos (bne_slash hfront)]
    simp
  have hread : parse? (front ++ "/" ++ back) =
      if front.toList.isEmpty || back.toList.isEmpty || back.toList.contains '/' then none
      else some ⟨front, back⟩ := by
    dsimp only [parse?]
    rw [hrest, hfirst]
    simp only [String.ofList_toList]
  have hrefused : (front.toList.isEmpty || back.toList.isEmpty || back.toList.contains '/') = true ↔
      ¬ (IsPart front ∧ IsPart back) := by
    simp only [isPart_iff, hfront]
    simp [or_assoc, imp_iff_not_or]
  rw [hread]
  by_cases hparts : IsPart front ∧ IsPart back
  · rw [if_neg (not_not_intro hparts ∘ hrefused.mp)]
    simp [hparts, eq_comm]
  · rw [if_pos (hrefused.mpr hparts), ← and_assoc]
    simp [hparts]

theorem Written.named (h : Written s i) : i.Named := by
  cases h with
  | short hname => exact ⟨isPart_defaultNamespace, hname⟩
  | full hns hname => exact ⟨hns, hname⟩

theorem Written.ne_empty (h : Written s i) : s ≠ "" := by
  cases h with
  | short hname => exact hname.named
  | full => simp

theorem Named.written (h : i.Named) : Written i.text i :=
  .full h.namespaceName h.name

theorem not_named_nameless : ¬ nameless.Named :=
  fun h => h.name.named rfl

/-- A text is read as the identity that it is written for; the empty text is read as the one without a
name. -/
theorem parse?_eq_some_iff : parse? s = some i ↔ Written s i ∨ s = "" ∧ i = nameless := by
  constructor
  · intro h
    obtain hs | ⟨front, back, hfront, rfl⟩ := slashless_or_split s
    · obtain rfl : _ = i := Option.some.inj ((parse?_slashless hs).symm.trans h)
      by_cases hempty : s = ""
      · exact .inr ⟨hempty, by rw [hempty, nameless]⟩
      · exact .inl (.short ⟨hempty, hs⟩)
    · obtain ⟨hns, hname, rfl⟩ := (parse?_split hfront).mp h
      exact .inl (.full hns hname)
  · rintro (h | ⟨rfl, rfl⟩)
    · cases h with
      | short hname => exact parse?_slashless hname.slashless
      | full hns hname => exact (parse?_split hns.slashless).mpr ⟨hns, hname, rfl⟩
    · exact parse?_slashless (by simp)

theorem identityOf_eq_ok : identityOf s = .ok i ↔ Written s i ∨ s = "" ∧ i = nameless := by
  rw [← parse?_eq_some_iff, identityOf]
  cases parse? s <;> simp

theorem identityOf_eq_error :
    identityOf s = .error f ↔ f = .badIdentity s ∧ s ≠ "" ∧ ∀ i, ¬ Written s i := by
  have hnone : parse? s = none ↔ s ≠ "" ∧ ∀ i, ¬ Written s i := by
    simp only [Option.eq_none_iff_forall_ne_some, ne_eq, parse?_eq_some_iff]
    constructor
    · intro h
      exact ⟨fun hs => h nameless (.inr ⟨hs, rfl⟩), fun i hi => h i (.inl hi)⟩
    · rintro ⟨hs, hnot⟩ i (hi | ⟨hempty, -⟩)
      · exact hnot i hi
      · exact hs hempty
  rw [← hnone, identityOf]
  cases parse? s <;> simp [eq_comm]

/-- No other identity has the text of one without slashes in its namespace and name. -/
theorem text_inj (hns : '/' ∉ i.namespaceName.toList) (hname : '/' ∉ i.name.toList) :
    i.text = k.text ↔ i = k := by
  refine ⟨fun h => ?_, fun h => h ▸ rfl⟩
  rw [← String.toList_inj, text, text, toList_slashed, toList_slashed,
    List.append_cons_inj_of_notMem hns hname] at h
  obtain ⟨hns', -, hname'⟩ := h
  rw [String.toList_inj] at hns' hname'
  cases i
  cases k
  simp_all

theorem named_iff_of_read (h : identityOf s = .ok i) : i.Named ↔ s ≠ "" := by
  obtain hw | ⟨rfl, rfl⟩ := identityOf_eq_ok.mp h
  · exact iff_of_true hw.named hw.ne_empty
  · exact iff_of_false not_named_nameless (not_not_intro rfl)

theorem not_read_nameless_text : identityOf nameless.text ≠ .ok nameless := by
  intro h
  obtain hw | ⟨hempty, -⟩ := identityOf_eq_ok.mp h
  · exact not_named_nameless hw.named
  · exact absurd hempty (by decide)

theorem read_again_iff (h : identityOf s = .ok i) : identityOf i.text = .ok i ↔ s ≠ "" := by
  obtain hw | ⟨rfl, rfl⟩ := identityOf_eq_ok.mp h
  · exact iff_of_true (identityOf_eq_ok.mpr (.inl hw.named.written)) hw.ne_empty
  · exact iff_of_false not_read_nameless_text (not_not_intro rfl)

theorem text_inj_of_read (h : identityOf s = .ok i) : i.text = k.text ↔ i = k := by
  obtain hw | ⟨-, rfl⟩ := identityOf_eq_ok.mp h
  · exact text_inj hw.named.namespaceName.slashless hw.named.name.slashless
  · exact text_inj isPart_defaultNamespace.slashless (by simp [nameless])

/-- A text is read as the identity that it is written for, and the empty one as the identity without a name;
any other is refused. No other identity has the text of one that is read. Where the text that is read is
not empty, its namespace and name are not either, and the identity is read again from its own text. -/
theorem identityOf_exact (s : String) :
    (∀ i, identityOf s = .ok i ↔ Written s i ∨ s = "" ∧ i = nameless) ∧
    (∀ f, identityOf s = .error f ↔ f = .badIdentity s ∧ s ≠ "" ∧ ∀ i, ¬ Written s i) ∧
    (∀ f, identityOf s = .error f → f.title = "ValueError") ∧
    ∀ i, identityOf s = .ok i →
      (i.Named ↔ s ≠ "") ∧ (identityOf i.text = .ok i ↔ s ≠ "") ∧ ∀ k, i.text = k.text → i = k := by
  refine ⟨fun i => identityOf_eq_ok, fun f => identityOf_eq_error, fun f hf => ?_, fun i hi => ?_⟩
  · obtain ⟨rfl, -⟩ := identityOf_eq_error.mp hf
    rfl
  · exact ⟨named_iff_of_read hi, read_again_iff hi, fun k hk => (text_inj_of_read hi).mp hk⟩

/-- Nothing is written in the empty text, and still it is read; the identity has no name, and it is not read
again from its own text. -/
theorem empty_text_read :
    (¬ ∀ s i, identityOf s = .ok i ↔ Written s i) ∧ (¬ ∀ s i, identityOf s = .ok i → i.Named) ∧
      ¬ ∀ s i, identityOf s = .ok i → identityOf i.text = .ok i := by
  have hread : identityOf "" = .ok nameless := rfl
  refine ⟨fun h => ?_, fun h => ?_, fun h => ?_⟩
  · exact ((h "" nameless).mp hread).ne_empty rfl
  · exact not_named_nameless (h "" nameless hread)
  · exact not_read_nameless_text (h "" nameless hread)

end Identity
end StageGate
