import StageGate.Files.Tree
import StageGate.Proofs.Computations

/-!
Directory trees, and the order in which their directories are listed. In a proper tree each name of a
directory leads to one entry, so what a path stands for does not depend on the order: another order gives
the same failure or the same entry, listed in another order itself.
-/

namespace StageGate.Files

namespace Entry

/-- In each directory the names are distinct, and none of them has a slash. -/
inductive Proper : Entry → Prop where
  | file (bytes unread) : Proper (.file bytes unread)
  | link (target) : Proper (.link target)
  | special : Proper .special
  | directory {entries access} (hdistinct : (entries.map Prod.fst).Nodup)
      (hslash : ∀ entry ∈ entries, '/' ∉ entry.1.toList) (hproper : ∀ entry ∈ entries, Proper entry.2) :
      Proper (.directory entries access)

/-- The same entry, with the directories in it listed in another order. -/
inductive Relisted : Entry → Entry → Prop where
  | refl (e) : Relisted e e
  | order {entries others access} (horder : entries.Perm others) :
      Relisted (.directory entries access) (.directory others access)
  | inside {before after name e e' access} (he : Relisted e e') :
      Relisted (.directory (before ++ (name, e) :: after) access)
        (.directory (before ++ (name, e') :: after) access)
  | trans {e₁ e₂ e₃} (h : Relisted e₁ e₂) (h' : Relisted e₂ e₃) : Relisted e₁ e₃

/-- Names lead from an entry to another one, through directories alone. -/
inductive Leads : Entry → List String → Entry → Prop where
  | here (e) : Leads e [] e
  | deeper {entries access name c ns d} (hc : (name, c) ∈ entries) (hd : Leads c ns d) :
      Leads (.directory entries access) (name :: ns) d

variable {e e' d : Entry} {entries others : List (String × Entry)} {access : Access} {name : String}
  {ns : List String}

theorem Relisted.symm (h : e.Relisted e') : e'.Relisted e := by
  induction h with
  | refl e => exact .refl e
  | order horder => exact .order horder.symm
  | inside _ ih => exact .inside ih
  | trans _ _ ih ih' => exact .trans ih' ih

/-- Only directories can be listed in another order, and they stay directories. -/
theorem Relisted.eq_or_directories (h : e.Relisted e') :
    e' = e ∨ ∃ entries others access, e = .directory entries access ∧ e' = .directory others access := by
  induction h with
  | refl e => exact .inl rfl
  | order => exact .inr ⟨_, _, _, rfl, rfl⟩
  | inside => exact .inr ⟨_, _, _, rfl, rfl⟩
  | trans _ _ ih ih' =>
    rcases ih' with rfl | ⟨middle, others, access, rfl, rfl⟩
    · exact ih
    · rcases ih with heq | ⟨entries, _, access', rfl, heq⟩
      · exact .inr ⟨middle, others, access, heq.symm, rfl⟩
      · cases heq
        exact .inr ⟨entries, others, access, rfl, rfl⟩

theorem Relisted.directory (h : (Entry.directory entries access).Relisted e') :
    ∃ others, e' = .directory others access := by
  rcases h.eq_or_directories with rfl | ⟨_, others, _, heq, rfl⟩
  · exact ⟨entries, rfl⟩
  · cases heq
    exact ⟨others, rfl⟩

theorem Relisted.eq_of_not_directory (h : e.Relisted e')
    (he : ∀ entries access, e ≠ .directory entries access) : e' = e := by
  rcases h.eq_or_directories with heq | ⟨entries, _, access, heq, -⟩
  · exact heq
  · exact absurd heq (he entries access)

theorem linkSizeOf_append (front rear : List (String × Entry)) :
    linkSizeOf (front ++ rear) = linkSizeOf front + linkSizeOf rear := by
  induction front with
  | nil => simp [linkSizeOf]
  | cons entry front ih =>
    simp only [List.cons_append, linkSizeOf, ih]
    omega

theorem linkSizeOf_perm (horder : entries.Perm others) : linkSizeOf entries = linkSizeOf others := by
  induction horder with
  | nil => rfl
  | cons entry _ ih => simp only [linkSizeOf, ih]
  | swap first second rest =>
    simp only [linkSizeOf]
    omega
  | trans _ _ ih ih' => exact ih.trans ih'

theorem Relisted.linkSize_eq (h : e.Relisted e') : e.linkSize = e'.linkSize := by
  induction h with
  | refl e => rfl
  | order horder =>
    simp only [linkSize]
    exact linkSizeOf_perm horder
  | inside _ ih => simp [linkSize, linkSizeOf_append, linkSizeOf, ih]
  | trans _ _ ih ih' => exact ih.trans ih'

theorem Relisted.proper (h : e.Relisted e') (he : e.Proper) : e'.Proper := by
  induction h with
  | refl e => exact he
  | order horder =>
    cases he with
    | directory hdistinct hslash hproper =>
      refine .directory ((horder.map _).nodup_iff.mp hdistinct) ?_ ?_
      · intro entry hentry
        exact hslash entry (horder.mem_iff.mpr hentry)
      · intro entry hentry
        exact hproper entry (horder.mem_iff.mpr hentry)
  | @inside before after name e e' access _ ih =>
    cases he with
    | directory hdistinct hslash hproper =>
      simp only [List.forall_mem_append, List.forall_mem_cons] at hslash hproper
      obtain ⟨hbefore, hmiddle, hafter⟩ := hproper
      refine .directory (by simpa using hdistinct) ?_ ?_
      · simpa only [List.forall_mem_append, List.forall_mem_cons] using hslash
      · simpa only [List.forall_mem_append, List.forall_mem_cons] using ⟨hbefore, ih hmiddle, hafter⟩
  | trans _ _ ih ih' => exact ih' (ih he)

/-- With distinct names, an entry is the one that its name leads to. -/
theorem lookup_eq_some_iff (hdistinct : (entries.map Prod.fst).Nodup) :
    entries.lookup name = some e ↔ (name, e) ∈ entries := by
  induction entries with
  | nil => simp
  | cons entry rest ih =>
    obtain ⟨first, e'⟩ := entry
    obtain ⟨hfirst, hrest⟩ := List.nodup_cons.mp hdistinct
    by_cases hname : name = first
    · subst hname
      have hnot : (name, e) ∉ rest := by
        intro hmem
        exact hfirst (List.mem_map.mpr ⟨(name, e), hmem, rfl⟩)
      simp [hnot, eq_comm]
    · have hdiffers : (name == first) = false := beq_eq_false_iff_ne.mpr hname
      simp only [List.lookup_cons, hdiffers, ih hrest]
      simp [hname]

theorem Proper.child (he : e.Proper) {c : Entry} (hc : e.child? name = some c) : c.Proper := by
  cases he with
  | directory hdistinct _ hproper => exact hproper _ ((lookup_eq_some_iff hdistinct).mp hc)
  | file | link | special => simp [child?] at hc

theorem Proper.descendant (he : e.Proper) (hd : e.descend? ns = some d) : d.Proper := by
  induction ns generalizing e with
  | nil =>
    cases hd
    exact he
  | cons n ns ih =>
    obtain ⟨c, hc, hd⟩ := Option.bind_eq_some_iff.mp hd
    exact ih (he.child hc) hd

theorem Proper.leads_iff (he : e.Proper) : e.Leads ns d ↔ e.descend? ns = some d := by
  constructor
  · intro hd
    induction hd with
    | here => rfl
    | deeper hc _ ih =>
      cases he with
      | directory hdistinct _ hproper =>
        have hchild := (lookup_eq_some_iff hdistinct).mpr hc
        simpa [descend?, child?, hchild] using ih (hproper _ hc)
  · intro hd
    induction ns generalizing e with
    | nil =>
      cases hd
      exact .here _
    | cons n ns ih =>
      obtain ⟨c, hc, hd⟩ := Option.bind_eq_some_iff.mp hd
      have hleads := ih (he.child hc) hd
      cases he with
      | directory hdistinct => exact .deeper ((lookup_eq_some_iff hdistinct).mp hc) hleads
      | file | link | special => simp [child?] at hc

theorem Leads.slashless (hd : e.Leads ns d) (he : e.Proper) : ∀ n ∈ ns, '/' ∉ n.toList := by
  induction hd with
  | here => simp
  | deeper hc _ ih =>
    cases he with
    | directory _ hslash hproper =>
      exact List.forall_mem_cons.mpr ⟨hslash _ hc, ih (hproper _ hc)⟩

/-- A name leads to the same entry, listed in another order itself, or to nothing in both. -/
theorem Relisted.child (h : e.Relisted e') (he : e.Proper) (name : String) :
    Option.Rel Relisted (e.child? name) (e'.child? name) := by
  induction h with
  | refl e => exact rel_refl .refl _
  | @order entries others access horder =>
    cases he with
    | directory hdistinct =>
      have hsame : entries.lookup name = others.lookup name := by
        ext c
        rw [lookup_eq_some_iff hdistinct, lookup_eq_some_iff ((horder.map _).nodup_iff.mp hdistinct)]
        exact horder.mem_iff
      simp only [child?, hsame]
      exact rel_refl .refl _
  | @inside before after first e e' access he' _ =>
    simp only [child?, List.lookup_append, List.lookup_cons]
    cases before.lookup name with
    | some c => exact .some (.refl c)
    | none =>
      by_cases hname : name = first
      · simpa [hname] using Option.Rel.some he'
      · simp only [beq_eq_false_iff_ne.mpr hname, Option.none_or]
        exact rel_refl .refl _
  | trans h _ ih ih' => exact rel_trans (fun _ _ _ => .trans) (ih he) (ih' (h.proper he))

theorem Relisted.descendant (h : e.Relisted e') (he : e.Proper) (ns : List String) :
    Option.Rel Relisted (e.descend? ns) (e'.descend? ns) := by
  induction ns generalizing e e' with
  | nil => exact .some h
  | cons n ns ih => exact rel_bind (h.child he n) fun c c' hc hcc => ih hcc (he.child hc)

/-- Names lead to the same entry in another order. -/
theorem Leads.relisted (hd : e.Leads ns d) (he : e.Proper) (h : e.Relisted e') :
    ∃ d', e'.Leads ns d' ∧ d.Relisted d' := by
  have hrelated := h.descendant he ns
  rw [he.leads_iff.mp hd] at hrelated
  cases hd' : e'.descend? ns with
  | none =>
    rw [hd'] at hrelated
    cases hrelated
  | some d' =>
    rw [hd'] at hrelated
    cases hrelated with
    | some hdd => exact ⟨d', (h.proper he).leads_iff.mpr hd', hdd⟩

end Entry

/-- The same failure, or the same entry with its directories listed in another order. -/
inductive SameFinding : Except Failure Entry → Except Failure Entry → Prop where
  | failure (f) : SameFinding (.error f) (.error f)
  | entry {e e'} (he : e.Relisted e') : SameFinding (.ok e) (.ok e')

namespace Tree
variable {root root' : Entry} {t t' : Tree}

/-- A step from a directory does not depend on the order in which it is listed. -/
theorem move_relisted {entries others : List (String × Entry)} {access : Access} {part : String}
    (hchild : Option.Rel Entry.Relisted (entries.lookup part) (others.lookup part)) :
    move entries access part = move others access part := by
  unfold move
  generalize entries.lookup part = found at hchild
  generalize others.lookup part = found' at hchild
  cases hchild with
  | none => rfl
  | @some e e' he =>
    cases e with
    | directory =>
      obtain ⟨others, rfl⟩ := he.directory
      rfl
    | file | link | special =>
      obtain rfl := he.eq_of_not_directory (by simp)
      rfl

theorem follow_relisted (hroot : root.Relisted root') (hproper : root.Proper) (fuel links : Nat)
    (place parts : List String) :
    SameFinding (follow root fuel links place parts) (follow root' fuel links place parts) := by
  induction fuel generalizing links place parts with
  | zero => exact .failure _
  | succ fuel ih =>
    have hhere := hroot.descendant hproper place.reverse
    unfold follow
    cases hd : root.descend? place.reverse with
    | none =>
      rw [hd] at hhere
      generalize root'.descend? place.reverse = here' at hhere
      cases hhere
      exact .failure _
    | some here =>
      rw [hd] at hhere
      generalize root'.descend? place.reverse = here' at hhere
      cases hhere with
      | @some _ here' h =>
        cases parts with
        | nil => exact .entry h
        | cons part rest =>
          cases here with
          | directory entries access =>
            have hchild := h.child (hproper.descendant hd) part
            obtain ⟨others, rfl⟩ := h.directory
            dsimp only
            rw [← move_relisted hchild]
            cases move entries access part with
            | error f => exact .failure f
            | ok next =>
              cases next with
              | stay | up | down => exact ih _ _ _
              | along target =>
                dsimp only
                split
                · exact .failure _
                · split
                  · exact .failure _
                  · exact ih _ _ _
          | file | link | special =>
            obtain rfl := h.eq_of_not_directory (by simp)
            exact .failure _

/-- The same tree, with its directories listed in another order. -/
structure Relisted (t t' : Tree) : Prop where
  root : t.root.Relisted t'.root
  here : t'.here = t.here

/-- What a path stands for does not depend on the order in which directories are listed. -/
theorem Relisted.find (h : t.Relisted t') (hproper : t.root.Proper) (path : String) :
    SameFinding (t.find path) (t'.find path) := by
  have hbase (a : Anchor) : t'.base a = t.base a := by cases a <;> simp [base, h.here]
  unfold Tree.find
  split
  · exact .failure _
  split
  · exact .failure _
  · dsimp only
    rw [h.root.linkSize_eq, hbase]
    generalize (Path.ofText path).parts.length + (linkLimit + 1) * (t'.root.linkSize + 1) + 2 = steps
    have hsame := follow_relisted h.root hproper steps linkLimit
      (t.base (Path.ofText path).anchor).reverse (Path.ofText path).parts
    generalize follow t.root steps _ _ _ = found at hsame
    generalize follow t'.root steps _ _ _ = found' at hsame
    cases hsame with
    | failure f => exact .failure f
    | @entry e e' he =>
      cases e with
      | directory entries access =>
        obtain ⟨others, rfl⟩ := he.directory
        exact .entry he
      | file | link | special =>
        obtain rfl := he.eq_of_not_directory (by simp)
        dsimp only
        split
        · exact .failure _
        · exact .entry he

end Tree
end StageGate.Files
