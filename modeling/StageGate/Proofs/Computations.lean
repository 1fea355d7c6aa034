import Mathlib.Data.List.Forall2
import StageGate.Results

/-!
Computations that may fail: what is known of all errors that a computation may end in, and computations
item by item, which the first error ends. A place in a list, by which the item of a history that counts is
singled out, stays a place when the history goes on. Lists of which one is made of the other, item by item,
split at the same places. Two look-ups are related if they find related items, or if neither finds one.
-/

namespace StageGate

/-- All errors that a computation may end in have the property. -/
def FailsOnly {ε α : Type} (P : ε → Prop) (x : Except ε α) : Prop :=
  ∀ e, x = .error e → P e

namespace FailsOnly
variable {ε ε' α β : Type} {P : ε → Prop} {e : ε} {x : Except ε α}

theorem ok (a : α) : FailsOnly P (.ok a : Except ε α) := by
  rintro e ⟨⟩

theorem error (he : P e) : FailsOnly P (.error e : Except ε α) := by
  rintro _ ⟨⟩
  exact he

theorem bind {g : α → Except ε β} (hx : FailsOnly P x) (hg : ∀ a, x = .ok a → FailsOnly P (g a)) :
    FailsOnly P (x >>= g) := by
  cases x with
  | error e => exact error (hx e rfl)
  | ok a => exact hg a rfl

theorem map (g : α → β) (hx : FailsOnly P x) : FailsOnly P (x.map g) := by
  cases x with
  | error e => exact error (hx e rfl)
  | ok a => exact ok (g a)

theorem mapError {Q : ε' → Prop} {g : ε → ε'} (hx : FailsOnly (fun e => Q (g e)) x) :
    FailsOnly Q (x.mapError g) := by
  cases x with
  | error e => exact error (hx e rfl)
  | ok a => exact ok a

theorem foldlM {g : β → α → Except ε β} (hg : ∀ b a, FailsOnly P (g b a)) (l : List α) (b : β) :
    FailsOnly P (l.foldlM g b) := by
  induction l generalizing b with
  | nil => exact ok b
  | cons a l ih =>
    rw [List.foldlM_cons]
    exact (hg b a).bind fun b' _ => ih b'

end FailsOnly

section
variable {α β ε : Type} {f : α → Except ε β} {a : α} {l : List α} {e : ε}

/-- The error of the first item that has one. -/
def FirstError (f : α → Except ε β) (l : List α) (e : ε) : Prop :=
  ∃ before a after, l = before ++ a :: after ∧ (∀ b ∈ before, ∃ x, f b = .ok x) ∧ f a = .error e

theorem not_firstError_nil : ¬ FirstError f [] e := by
  simp [FirstError]

theorem firstError_cons :
    FirstError f (a :: l) e ↔ f a = .error e ∨ (∃ x, f a = .ok x) ∧ FirstError f l e := by
  constructor
  · rintro ⟨_ | ⟨b, before⟩, c, after, heq, hbefore, hc⟩
    · cases heq
      exact .inl hc
    · cases heq
      obtain ⟨hb, hrest⟩ := List.forall_mem_cons.mp hbefore
      exact .inr ⟨hb, before, c, after, rfl, hrest, hc⟩
  · rintro (ha | ⟨ha, before, c, after, rfl, hbefore, hc⟩)
    · exact ⟨[], a, l, rfl, by simp, ha⟩
    · exact ⟨a :: before, c, after, rfl, List.forall_mem_cons.mpr ⟨ha, hbefore⟩, hc⟩

theorem FirstError.exists_error (he : FirstError f l e) : ∃ a ∈ l, f a = .error e := by
  obtain ⟨before, a, after, rfl, -, ha⟩ := he
  exact ⟨a, by simp, ha⟩

theorem mapM_cons_eq : (a :: l).mapM f = (f a).bind fun x => (l.mapM f).map (x :: ·) := by
  rw [List.mapM_cons]
  cases f a with
  | error e => rfl
  | ok x => cases l.mapM f <;> rfl

theorem mapM_eq_ok {xs : List β} :
    l.mapM f = .ok xs ↔ List.Forall₂ (fun a x => f a = .ok x) l xs := by
  induction l generalizing xs with
  | nil => simp [List.forall₂_nil_left_iff, pure, Except.pure, eq_comm]
  | cons a l ih =>
    rw [mapM_cons_eq, List.forall₂_cons_left_iff]
    cases ha : f a with
    | error e => simp [Except.bind]
    | ok x =>
      cases hl : l.mapM f with
      | error e => simp [Except.bind, Except.map, ← ih, hl]
      | ok ys => simp [Except.bind, Except.map, ← ih, hl, eq_comm]

theorem mapM_eq_error : l.mapM f = .error e ↔ FirstError f l e := by
  induction l with
  | nil => simp [not_firstError_nil, pure, Except.pure]
  | cons a l ih =>
    rw [mapM_cons_eq, firstError_cons, ← ih]
    cases ha : f a with
    | error e' => simp [Except.bind]
    | ok x => cases hl : l.mapM f <;> simp [Except.bind, Except.map]

end

/-- A place in a list with one more item at its end is the end, or a place in the list before. -/
theorem exists_place_concat {α : Type} {l : List α} {x : α} {P : List α → α → List α → Prop} :
    (∃ before a after, l ++ [x] = before ++ a :: after ∧ P before a after) ↔
      P l x [] ∨ ∃ before a after, l = before ++ a :: after ∧ P before a (after ++ [x]) := by
  constructor
  · rintro ⟨before, a, after, heq, hp⟩
    rcases List.eq_nil_or_concat after with rfl | ⟨front, last, rfl⟩
    · obtain ⟨rfl, hx⟩ := List.append_inj' heq rfl
      cases hx
      exact .inl hp
    · have heq' : l ++ [x] = (before ++ a :: front) ++ [last] := by simpa using heq
      obtain ⟨rfl, hx⟩ := List.append_inj' heq' rfl
      cases hx
      exact .inr ⟨before, a, front, rfl, by simpa using hp⟩
  · rintro (hp | ⟨before, a, after, rfl, hp⟩)
    · exact ⟨l, x, [], rfl, hp⟩
    · exact ⟨before, a, after ++ [x], by simp, hp⟩

/-- A split of what is kept of a list comes from a split of the list. -/
theorem exists_split_of_filterMap {α β : Type} {f : α → Option β} {l : List α} {before after : List β}
    {b : β} (hsplit : l.filterMap f = before ++ b :: after) :
    ∃ front a rear, l = front ++ a :: rear ∧ front.filterMap f = before ∧ f a = some b := by
  obtain ⟨front, rest, rfl, hfront, hrest⟩ := List.filterMap_eq_append_iff.mp hsplit
  obtain ⟨between, a, rear, rfl, hbetween, ha, -⟩ := List.filterMap_eq_cons_iff.mp hrest
  have hnothing : between.filterMap f = [] := List.filterMap_eq_nil_iff.mpr hbetween
  refine ⟨front ++ between, a, rear, by simp, ?_, ha⟩
  rw [List.filterMap_append, hfront, hnothing, List.append_nil]

/-- Lists that are related item by item split at the same place. -/
theorem exists_split_of_forall₂ {α β : Type} {R : α → β → Prop} {l : List α} {before after : List β}
    {b : β} (hall : List.Forall₂ R l (before ++ b :: after)) :
    ∃ front a rear, l = front ++ a :: rear ∧ List.Forall₂ R front before ∧ R a b := by
  have hfront := List.forall₂_take_append l before (b :: after) hall
  have hrest := List.forall₂_drop_append l before (b :: after) hall
  obtain ⟨a, rear, ha, -, hdrop⟩ := List.forall₂_cons_right_iff.mp hrest
  refine ⟨_, a, rear, ?_, hfront, ha⟩
  rw [← hdrop, List.take_append_drop]

theorem exists_related_of_mem {α β : Type} {R : α → β → Prop} {l : List α} {m : List β} {a : α}
    (hall : List.Forall₂ R l m) (ha : a ∈ l) : ∃ b ∈ m, R a b := by
  induction hall with
  | nil => simp at ha
  | cons hab _ ih =>
    rcases List.mem_cons.mp ha with rfl | ha
    · exact ⟨_, List.mem_cons_self, hab⟩
    · obtain ⟨b, hb, hab'⟩ := ih ha
      exact ⟨b, List.mem_cons_of_mem _ hb, hab'⟩

/-- Where one element of a list fails, there is a first that does. -/
theorem exists_firstError_of_mem {α β ε : Type} {f : α → Except ε β} {l : List α} {a : α} {e : ε}
    (hmem : a ∈ l) (ha : f a = .error e) : ∃ e', FirstError f l e' := by
  cases hl : l.mapM f with
  | error e' => exact ⟨e', mapM_eq_error.mp hl⟩
  | ok xs =>
    obtain ⟨x, -, hx⟩ := exists_related_of_mem (mapM_eq_ok.mp hl) hmem
    cases ha.symm.trans hx

section
variable {α : Type} {R : α → α → Prop} {o p q : Option α}

theorem rel_refl (hrefl : ∀ a, R a a) (o : Option α) : Option.Rel R o o := by
  cases o with
  | none => exact .none
  | some a => exact .some (hrefl a)

theorem rel_trans (htrans : ∀ a b c, R a b → R b c → R a c) (hop : Option.Rel R o p)
    (hpq : Option.Rel R p q) : Option.Rel R o q := by
  cases hop with
  | none => exact hpq
  | some hab =>
    cases hpq with
    | some hbc => exact .some (htrans _ _ _ hab hbc)

theorem rel_bind {f g : α → Option α} (hop : Option.Rel R o p)
    (hfg : ∀ a b, o = some a → R a b → Option.Rel R (f a) (g b)) :
    Option.Rel R (o.bind f) (p.bind g) := by
  cases hop with
  | none => exact .none
  | some hab => exact hfg _ _ rfl hab

end

end StageGate
