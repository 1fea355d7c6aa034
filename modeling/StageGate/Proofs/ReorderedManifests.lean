import StageGate.Proofs.PlainValues
import StageGate.Proofs.RelatedManifests

/-!
Manifests whose entries stand in another order, at any depth. The validator walks the entries in their order
and stops at the first fault, but whether there is a fault does not depend on the order, and the resources
that are made of two such manifests are equal.
-/

namespace StageGate

theorem getElem?_replaced {α : Type} {R : α → α → Prop} {a b : α} (hrefl : ∀ c, R c c) (hab : R a b)
    (before after : List α) (i : Nat) :
    Option.Rel R (before ++ a :: after)[i]? (before ++ b :: after)[i]? := by
  induction before generalizing i with
  | nil =>
    cases i with
    | zero => exact .some hab
    | succ i => exact rel_refl hrefl after[i]?
  | cons c before ih =>
    cases i with
    | zero => exact .some (hrefl c)
    | succ i => exact ih i

namespace Value.Reordered
variable {v w : Value}

theorem eq_null_iff (h : Reordered v w) : v = .null ↔ w = .null := by
  rcases h.eq_or_collections with rfl | ⟨_, _, rfl, rfl⟩ | ⟨_, _, rfl, rfl⟩ <;> simp

theorem isStr_eq (h : Reordered v w) : v.isStr = w.isStr := by
  rw [Bool.eq_iff_iff, isStr_iff, isStr_iff]
  simp only [h.eq_str_iff]

/-- A schema is passed by a value or failed by it whatever the order of its entries. -/
theorem indistinct (h : Reordered v w) (hv : v.Plain) : Schema.Indistinct v w := by
  -- for all schemas and places at once, as a step below an entry is checked by the schema of that entry
  induction h with
  | refl => exact fun _ _ => Iff.rfl
  | @order es fs horder =>
    have hes := hv.entries_eq
    have hfs := ((order horder).plain hv).entries_eq
    intro schema place
    cases schema with
    | any | string | boolean | array => simp [Schema.check, isStr, items?]
    | map => simp [Schema.check_map_eq_none_iff, hes, hfs, horder.mem_iff]
    | object required fields =>
      simp [Schema.check_object_eq_none_iff, hes, hfs, horder.mem_iff, (order horder).has_eq hv hes hfs]
  | @entry before k v w after hmiddle ih =>
    have hes := hv.entries_eq
    have hfs := ((entry hmiddle).plain hv).entries_eq
    obtain ⟨-, -, hvs⟩ := plain_map_iff.mp hv
    have hplain := hvs (k, v) (by simp)
    intro schema place
    cases schema with
    | any | string | boolean | array => simp [Schema.check, isStr, items?]
    | map =>
      simp only [Schema.check_map_eq_none_iff, hes, hfs, Option.some.injEq, exists_eq_left',
        Mapping.forall_middle, hmiddle.eq_str_iff, reduceCtorEq, false_or]
    | object required fields =>
      have hfield := (ih hplain).checkField_iff fields (place ++ [.key k]) k
      simp only [Schema.check_object_eq_none_iff, hes, hfs, Option.some.injEq, exists_eq_left',
        Mapping.forall_middle, hfield, (entry hmiddle).has_eq hv hes hfs]
  | @item before v w after hmiddle ih =>
    have hitems := hv.items_eq
    have hitems' := ((item hmiddle).plain hv).items_eq
    have hplain := plain_list_iff.mp hv v (by simp)
    intro schema place
    cases schema with
    | any | string | boolean | map | object => simp [Schema.check, isStr, entries?]
    | array items =>
      simp only [Schema.check_array_eq_none_iff, hitems, hitems', Option.some.injEq, exists_eq_left']
      refine forall_congr' fun i => ?_
      have hrel := getElem?_replaced (fun u schema place => Iff.rfl) (ih hplain) before after i
      generalize (before ++ v :: after)[i]? = found, (before ++ w :: after)[i]? = found' at hrel
      cases hrel with
      | none => rfl
      | some hitem => simpa using hitem items (place ++ [.index i])
  | trans huv _ ih ih' =>
    exact fun schema place => (ih hv schema place).trans (ih' (huv.plain hv) schema place)

end Value.Reordered

namespace Manifest
open Value

variable {doc doc' v w : Value} {es fs : Mapping} {r s : Resource}

/-! Fields as they are read. -/

/-- What the view sees of values that differ in the order of entries is related, and a null that it sees is
the default. -/
structure Matches {α : Type} (view : Value → Option α) (default : α) (same : α → α → Prop) : Prop where
  stated : ∀ v w a b, Reordered v w → v.Plain → view v = some a → view w = some b → same a b
  leftOut : same default default
  null : ∀ a, view .null = some a → a = default

theorem matches_value : Matches some .null fun v w => v.same w = true where
  stated := by
    rintro v w _ _ h hv ⟨⟩ ⟨⟩
    exact h.same hv
  leftOut := by simp [Value.same, sameKey, key?]
  null := by
    rintro _ ⟨⟩
    rfl

theorem matches_entries : Matches entries? [] fun m n => m.same n = true where
  stated := by
    intro v w m n h hv hm hn
    have hsame := h.same hv
    rwa [hv.eq_map hm, (h.plain hv).eq_map hn, same_map] at hsame
  leftOut := by simp [Mapping.same, sameEntries]
  null := nofun

theorem matches_items : Matches items? [] fun vs ws => sameItems vs ws = true where
  stated := by
    intro v w vs ws h hv hvs hws
    have hsame := h.same hv
    rwa [hv.eq_list hvs, (h.plain hv).eq_list hws, Value.same] at hsame
  leftOut := by simp [sameItems]
  null := nofun

theorem matches_truth : Matches truth? false fun b c => b = c where
  stated := by
    intro v w b c h hv hb hc
    rcases h.eq_or_collections with rfl | ⟨_, _, rfl, -⟩ | ⟨_, _, rfl, -⟩
    · exact Option.some.inj (hb.symm.trans hc)
    · cases hb
    · cases hb
  leftOut := rfl
  null := nofun

theorem Holds.view_or_null {α : Type} {view : Value → Option α} {default a : α} {gap : Gap} {key : String}
    (ha : Holds view default gap es key a) :
    view (es.get key) = some a ∨ es.get key = .null ∧ a = default := by
  cases ha with
  | stated hv ha => exact .inl (by rwa [Mapping.get_of_get? hv])
  | leftOut hgap => exact .inr ⟨get_of_gap hgap, rfl⟩

/-- A field of two documents that differ in the order of entries is read alike. -/
theorem Matches.holds {α : Type} {view : Value → Option α} {default a b : α} {same : α → α → Prop}
    {gap : Gap} {key : String} (hview : Matches view default same) (h : Reordered v w) (hv : v.Plain)
    (hes : v.entries? = some es) (hfs : w.entries? = some fs) (ha : Holds view default gap es key a)
    (hb : Holds view default gap fs key b) : same a b := by
  have hfield := h.get hv hes hfs key
  rcases ha.view_or_null with hseen | ⟨hnull, rfl⟩
  · rcases hb.view_or_null with hseen' | ⟨hnull, rfl⟩
    · exact hview.stated _ _ a b hfield (hv.get hes key) hseen hseen'
    · rw [hfield.eq_null_iff.mpr hnull] at hseen
      rw [hview.null a hseen]
      exact hview.leftOut
  · rcases hb.view_or_null with hseen' | ⟨-, rfl⟩
    · rw [hfield.eq_null_iff.mp hnull] at hseen'
      rw [hview.null b hseen']
      exact hview.leftOut
    · exact hview.leftOut

/-! Resources. -/

section
variable (h : Reordered v w) (hv : v.Plain) (hes : v.entries? = some es) (hfs : w.entries? = some fs)
include h hv hes hfs

theorem metadata_same {m n : Metadata} (hm : ReadsMetadata es m) (hn : ReadsMetadata fs n) :
    m.same n = true := by
  have hname := matches_value.holds h hv hes hfs hm.name hn.name
  have hhome := matches_value.holds h hv hes hfs hm.namespaceName hn.namespaceName
  have hlabels := matches_entries.holds h hv hes hfs hm.labels hn.labels
  have hannotations := matches_entries.holds h hv hes hfs hm.annotations hn.annotations
  simp only [Metadata.same, hname, hhome, hlabels, hannotations, Bool.and_self]

theorem content_same {kind : Kind} {c d : Content} (hc : ReadsContent es kind c)
    (hd : ReadsContent fs kind d) : c.same d = true := by
  cases hc with
  | bare hkind =>
    cases hd with
    | bare => rfl
    | _ => grind
  | rules hkind hrules =>
    cases hd with
    | rules _ hrules' => exact matches_items.holds h hv hes hfs hrules hrules'
    | _ => grind
  | binding hkind hrole hsubjects =>
    cases hd with
    | binding _ hrole' hsubjects' =>
      have hrole := matches_entries.holds h hv hes hfs hrole hrole'
      have hsubjects := matches_items.holds h hv hes hfs hsubjects hsubjects'
      simp only [Content.same, hrole, hsubjects, Bool.and_self]
    | _ => grind
  | data hdata =>
    cases hd with
    | data hdata' => exact matches_entries.holds h hv hes hfs hdata hdata'
    | _ => grind
  | workload hkind hspec =>
    cases hd with
    | workload _ hspec' => exact matches_entries.holds h hv hes hfs hspec hspec'
    | _ => grind
  | service hspec =>
    cases hd with
    | service hspec' => exact matches_entries.holds h hv hes hfs hspec hspec'
    | _ => grind
  | constraints husers hprivileged =>
    cases hd with
    | constraints husers' hprivileged' =>
      have husers := matches_items.holds h hv hes hfs husers husers'
      obtain rfl := matches_truth.holds h hv hes hfs hprivileged hprivileged'
      simp only [Content.same, husers, beq_self_eq_true, Bool.and_self]
    | _ => grind

theorem resource_same {kind : Kind} (hr : MadeFrom kind v es r) (hs : MadeFrom kind w fs s) :
    r.same s = true := by
  obtain ⟨hkind, hclass, hversion, ⟨fields, hfields, hmetadata⟩, hcontent, -⟩ := hr
  obtain ⟨hkind', hclass', hversion', ⟨fields', hfields', hmetadata'⟩, hcontent', -⟩ := hs
  have hsameVersion : r.apiVersion.same s.apiVersion = true := by
    have hfield := (h.get hv hes hfs "apiVersion").same (hv.get hes "apiVersion")
    rwa [Mapping.get_of_get? hversion, Mapping.get_of_get? hversion'] at hfield
  have hsameMetadata := metadata_same (h.get hv hes hfs "metadata") (hv.get hes "metadata") hfields
    hfields' hmetadata hmetadata'
  have hsameContent := content_same h hv hes hfs hcontent hcontent'
  simp only [Resource.same, hkind, hkind', hclass, hclass', hsameVersion, hsameMetadata, hsameContent,
    beq_self_eq_true, Bool.and_self]

end

/-! Documents. -/

section
variable (h : Reordered doc doc') (hplain : doc.Plain)
include h hplain

theorem kindOf_reordered : kindOf doc' = kindOf doc := by
  cases hes : doc.entries? with
  | none =>
    rcases h.eq_or_collections with rfl | ⟨_, _, rfl, -⟩ | ⟨_, _, rfl, rfl⟩
    · rfl
    · cases hes
    · rfl
  | some es =>
    obtain ⟨fs, hfs⟩ := h.exists_entries hes
    have hkind := h.get hplain hes hfs "kind"
    simp only [kindOf, hes, hfs]
    generalize es.get "kind" = kind, fs.get "kind" = kind' at hkind
    rcases hkind.eq_or_collections with rfl | ⟨_, _, rfl, rfl⟩ | ⟨_, _, rfl, rfl⟩ <;> rfl

theorem valid_reordered {catalog : SchemaCatalog} (hvalid : catalog.validate doc = .ok none) :
    catalog.validate doc' = .ok none := by
  obtain ⟨es, schema, hes, hcore, hversion, hkind, hfind, hcheck⟩ :=
    SchemaCatalog.validate_eq_none_iff.mp hvalid
  obtain ⟨fs, hfs⟩ := h.exists_entries hes
  have hkey := (h.get hplain hes hfs "kind").key?_eq
  have hsame (u : Value) : u.sameKey (fs.get "kind") = u.sameKey (es.get "kind") := by
    rw [sameKey, sameKey, hkey]
  refine SchemaCatalog.validate_eq_none_iff.mpr ⟨fs, schema, hfs, fun field hfield => ?_, ?_, ?_, ?_, ?_⟩
  · rw [← h.has_eq hplain hes hfs field, hcore field hfield]
  · rw [← (h.get hplain hes hfs "apiVersion").isStr_eq, hversion]
  · rw [← hkey, hkind]
  · simpa only [SchemaCatalog.find?, hsame] using hfind
  · exact (h.indistinct hplain _ _).mp hcheck

end

/-- A plain document whose entries are put in another order is recognized as an equal resource. -/
theorem recognizes_reordered {slot : String} (h : Reordered doc doc') (hplain : doc.Plain)
    (hr : Recognizes .standard doc slot r) :
    ∃ s, Recognizes .standard doc' slot s ∧ r.same s = true := by
  obtain ⟨hvalid, ⟨kind, es, hname, hes, hr, rfl⟩, -⟩ := hr
  have hvalid' := valid_reordered h hplain hvalid
  have hname' := (kindOf_reordered h hplain).trans hname
  obtain ⟨es', hnames⟩ := kindOf_eq_ok_iff.mp hname
  cases hes.symm.trans hnames.entries
  obtain ⟨fs, hnames'⟩ := kindOf_eq_ok_iff.mp hname'
  obtain ⟨r', hmade⟩ := exists_madeFrom hnames hvalid
  cases hmade.resourceOf_eq.symm.trans hr
  obtain ⟨s, hmade'⟩ := exists_madeFrom hnames' hvalid'
  have htextual := resourceOf_textual hvalid' hnames'.entries hmade'.resourceOf_eq
  exact ⟨s, ⟨hvalid', ⟨kind, fs, hname', hnames'.entries, hmade'.resourceOf_eq, rfl⟩, htextual.isWritable⟩,
    resource_same h hplain hes hnames'.entries hmade hmade'⟩

theorem decodeDocument_reordered (source : Option String) (h : Reordered doc doc') (hplain : doc.Plain) :
    SameOutcome source (fun r s => r.same s = true)
        (decodeDocument .standard source doc) (decodeDocument .standard source doc') ∨
      (∃ f, decodeDocument .standard source doc = .error f) ∧
      (∃ g, decodeDocument .standard source doc' = .error g) ∧
      ∃ m, Odd .standard doc m ∨ Odd .standard doc' m := by
  refine sameOutcome_of_recognizes (kindOf_reordered h hplain) ?_ ?_
  · exact fun slot r hr => recognizes_reordered h hplain hr
  · intro slot s hs
    obtain ⟨r, hr, -⟩ := recognizes_reordered h.symm (h.plain hplain) hs
    exact ⟨r, hr⟩

end Manifest
end StageGate
