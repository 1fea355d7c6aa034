import StageGate.Files.Path

/-!
Texts of paths. A path that is read from a text, or joined of such paths, has parts that are named and hold
no slash. Such a path is read again from its own text, so that different ones have different texts.
-/

namespace StageGate.Files

/-- The parts between the slashes of a text, but for those that are empty or a single dot. -/
def segments (s : String) : List String :=
  ((s.toList.splitOn '/').filter fun part => part != [] && part != ['.']).map String.ofList

/-- A part of a path in normal form: it is named, it is no dot, and it holds no slash. -/
structure IsPart (part : String) : Prop where
  named : part ≠ ""
  not_dot : part ≠ "."
  slashless : '/' ∉ part.toList

theorem splitOn_cons (c : Char) (cs : List Char) : ∃ part parts, cs.splitOn '/' = part :: parts ∧
    (c :: cs).splitOn '/' = if c = '/' then [] :: part :: parts else (c :: part) :: parts := by
  obtain ⟨part, parts, hcs⟩ := List.exists_cons_of_ne_nil (List.splitOnP_ne_nil (· == '/') cs)
  refine ⟨part, parts, hcs, ?_⟩
  rw [List.splitOn, List.splitOnP_cons_eq_if_modifyHead, hcs]
  simp

theorem slash_not_mem_splitOn {cs part : List Char} (hpart : part ∈ cs.splitOn '/') : '/' ∉ part := by
  induction cs generalizing part with
  | nil =>
    obtain rfl : part = [] := by simpa [List.splitOn] using hpart
    simp
  | cons c cs ih =>
    obtain ⟨first, rest, hcs, hsplit⟩ := splitOn_cons c cs
    rw [hcs] at ih
    rw [hsplit] at hpart
    split at hpart
    · rcases List.mem_cons.mp hpart with rfl | hpart
      · simp
      · exact ih hpart
    · rename_i hc
      rcases List.mem_cons.mp hpart with rfl | hpart
      · simpa [eq_comm, hc] using ih List.mem_cons_self
      · exact ih (List.mem_cons_of_mem _ hpart)

theorem isPart_of_mem_segments {s part : String} (hpart : part ∈ segments s) : IsPart part := by
  obtain ⟨cs, hcs, rfl⟩ := List.mem_map.mp hpart
  obtain ⟨hmem, hkept⟩ := List.mem_filter.mp hcs
  have hkept : cs ≠ [] ∧ cs ≠ ['.'] := by simpa using hkept
  refine ⟨by simpa using hkept.1, ?_, by simpa using slash_not_mem_splitOn hmem⟩
  intro hdot
  apply hkept.2
  rw [← String.toList_ofList (l := cs), hdot]
  rfl

/-- Slashless parts, with slashes between them, are what the text is split into again. -/
theorem splitOn_intercalate {parts : List String} (hne : parts ≠ [])
    (hslashless : ∀ part ∈ parts, '/' ∉ part.toList) :
    ("/".intercalate parts).toList.splitOn '/' = parts.map String.toList := by
  rw [String.toList_intercalate]
  refine List.splitOn_intercalate '/' ?_ (by simpa using hne)
  simpa using hslashless

theorem segments_intercalate {parts : List String} (hparts : ∀ part ∈ parts, IsPart part) :
    segments ("/".intercalate parts) = parts := by
  by_cases hnil : parts = []
  · subst hnil
    rfl
  · have hsplit : ("/".intercalate parts).toList.splitOn '/' = parts.map String.toList := by
      rw [String.toList_intercalate]
      refine List.splitOn_intercalate '/' ?_ (by simpa using hnil)
      simpa using fun part hpart => (hparts part hpart).slashless
    have hkept : (parts.map String.toList).filter (fun part => part != [] && part != ['.']) =
        parts.map String.toList := by
      rw [List.filter_eq_self]
      intro cs hcs
      obtain ⟨part, hpart, rfl⟩ := List.mem_map.mp hcs
      have hdot : part.toList ≠ ['.'] := fun h => (hparts part hpart).not_dot (String.toList_inj.mp h)
      simpa [hdot] using (hparts part hpart).named
    rw [segments, hsplit, hkept, List.map_map]
    simp [Function.comp_def]

theorem segments_slash (s : String) : segments ("/" ++ s) = segments s := by
  obtain ⟨part, parts, hs, hsplit⟩ := splitOn_cons '/' s.toList
  have htext : ("/" ++ s).toList = '/' :: s.toList := by simp
  rw [segments, segments, htext, hsplit, hs]
  simp

namespace Path
variable {p q : Path}

theorem splitSlashes_eq (cs : List Char) : splitSlashes cs = cs.splitOn '/' := by
  induction cs with
  | nil => rfl
  | cons c cs ih =>
    obtain ⟨part, parts, hcs, hsplit⟩ := splitOn_cons c cs
    rw [splitSlashes, ih, hcs, hsplit]
    simp

/-- A path whose parts are as they are in normal form. -/
def Normal (p : Path) : Prop :=
  ∀ part ∈ p.parts, IsPart part

theorem partsOf_eq (s : String) : partsOf s = segments s := by
  rw [partsOf, splitSlashes_eq, segments]

theorem normal_ofText (s : String) : (ofText s).Normal := by
  intro part hpart
  rw [ofText, partsOf_eq] at hpart
  exact isPart_of_mem_segments hpart

theorem Normal.join (hp : p.Normal) (hq : q.Normal) : (p.join q).Normal := by
  unfold Path.join
  split
  · intro part hpart
    rcases List.mem_append.mp hpart with hpart | hpart
    · exact hp part hpart
    · exact hq part hpart
  · exact hq

theorem head_intercalate {parts : List String} (hparts : ∀ part ∈ parts, IsPart part) :
    ("/".intercalate parts).toList.head? ≠ some '/' := by
  cases parts with
  | nil => simp
  | cons first rest =>
    have hfirst := hparts first List.mem_cons_self
    obtain ⟨c, cs, hcs⟩ := List.exists_cons_of_ne_nil (mt String.toList_eq_nil_iff.mp hfirst.named)
    have hc : c ≠ '/' := by
      rintro rfl
      exact hfirst.slashless (by simp [hcs])
    cases rest with
    | nil => simpa [hcs] using hc
    | cons second rest => simpa [String.intercalate_cons_cons, hcs] using hc

/-- A text that starts with no slash has the anchor that is put in front of it. -/
theorem anchorOf_text (anchor : Anchor) {s : String} (hs : s.toList.head? ≠ some '/') :
    anchorOf (anchor.text ++ s) = anchor := by
  cases hcs : s.toList with
  | nil => cases anchor <;> simp [anchorOf, Anchor.text, hcs]
  | cons c cs =>
    have hc : c ≠ '/' := by simpa [hcs] using hs
    cases anchor <;> simp [anchorOf, Anchor.text, hcs, hc]

theorem anchorOf_of_slash_not_mem {s : String} (hslash : '/' ∉ s.toList) : anchorOf s = .relative := by
  have hhead : s.toList.head? ≠ some '/' := fun hhead => hslash (List.mem_of_mem_head? hhead)
  simpa [Anchor.text] using anchorOf_text .relative hhead

theorem stepsOf_name {s : String} (hs : s ≠ "") (hslash : '/' ∉ s.toList) : stepsOf s = [s] := by
  have hparts : splitSlashes s.toList = [s.toList] := by
    have hslashless : ∀ part ∈ [s], '/' ∉ part.toList := by simpa using hslash
    rw [splitSlashes_eq]
    simpa using splitOn_intercalate (by simp) hslashless
  have hne : s.toList ≠ [] := by simpa using hs
  simp [stepsOf, hparts, hne]

/-- A path in normal form is read again from its text. -/
theorem Normal.ofText_text (hp : p.Normal) : ofText p.text = p := by
  obtain ⟨anchor, parts⟩ := p
  have hsegments : segments (anchor.text ++ "/".intercalate parts) = parts := by
    have hplain := segments_intercalate hp
    cases anchor with
    | relative => simpa [Anchor.text] using hplain
    | root => rw [Anchor.text, segments_slash, hplain]
    | doubleRoot =>
      have htext : Anchor.doubleRoot.text = "/" ++ "/" := rfl
      rw [htext, String.append_assoc, segments_slash, segments_slash, hplain]
  have hread : ofText (anchor.text ++ "/".intercalate parts) = ⟨anchor, parts⟩ := by
    rw [ofText, anchorOf_text anchor (head_intercalate hp), partsOf_eq, hsegments]
  unfold text
  split
  · rename_i hempty
    obtain ⟨rfl, rfl⟩ : anchor = .relative ∧ parts = [] := by simpa using hempty
    rfl
  · exact hread

theorem Normal.text_inj (hp : p.Normal) (hq : q.Normal) : p.text = q.text ↔ p = q := by
  constructor
  · intro htext
    rw [← hp.ofText_text, htext, hq.ofText_text]
  · rintro rfl
    rfl

end Path
end StageGate.Files
