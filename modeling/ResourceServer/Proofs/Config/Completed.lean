/-
A completed document is complete.

`Completed` says that nothing can be added to a document any more: both sections are tables with all of their fields,
and each mapping under a header of its own has its `enabled` field.
- `completed_of_complete`: this holds of a document that was completed.
- `Completed.of_alike`: it does not depend on the order of keys.
- `complete_of_completed`: completing such a document leaves it as it is, if the parts that a completion puts in their
  place are there already (`Steady`), as they are in a document that was parsed and in one that was completed.
- `exists_complete`: a document can be completed if its sections stand under headers or dotted keys, or are absent
  (`SectionFits`).
-/
import ResourceServer.Proofs.Config.Migration
import ResourceServer.Proofs.Toml.Alike

namespace ResourceServer

open Toml

variable {root root' t u : Table} {name : Text} {fields : List (Text × Value)} {names : List Text} {d d' : Document}

/-- the table has a field of each name -/
def HasFields (fields : List (Text × Value)) (t : Table) : Prop := ∀ f ∈ fields, t.has f.1 = true

/-- each mapping under a header of its own says whether it is enabled -/
def MappingsComplete (t : Table) : Prop :=
  ∀ ts, t.get? "mappings".toList = some (.tables ts) → ∀ m ∈ ts, m.has mappingDefault.1 = true

/-- nothing can be added to the document with this root -/
structure Completed (root : Table) : Prop where
  server : ∃ t, root.get? "server".toList = some (.table t) ∧ HasFields serverDefaults t
  resources : ∃ t, root.get? "resources".toList = some (.table t) ∧ HasFields resourceDefaults t ∧ MappingsComplete t

/-! ## After a completion -/

theorem hasFields_withFields (fields : List (Text × Value)) (t : Table) : HasFields fields (withFields fields t) := by
  intro f hf
  by_cases hhas : t.has f.1 = true
  · obtain ⟨item, hitem⟩ := TableOf.has_eq_true_iff.1 hhas
    refine TableOf.has_eq_true_iff.2 ⟨item, ?_⟩
    rw [withFields, TableOf.get?_extended, hitem, Option.some_or]
  · have hmissing : f ∈ missingFields fields t := List.mem_filter.2 ⟨hf, by simpa using hhas⟩
    have hentry : (Key.bare f.1, Item.value f.2) ∈ (withFields fields t).entries :=
      List.mem_append_right _ (List.mem_map.2 ⟨f, hmissing, rfl⟩)
    exact TableOf.has_eq_true_iff.2 (TableOf.exists_get?_of_mem hentry)

theorem HasFields.replace (h : HasFields fields t) (name : Text) (item : Item) :
    HasFields fields (t.replace name item) := by
  intro f hf
  rw [TableOf.has_replace]
  exact h f hf

/-- a section that is completed has all of its fields; the others stay -/
theorem completeSection_get? (h : completeSection name fields root = .ok (root', names)) :
    (∃ t, root'.get? name = some (.table t) ∧ HasFields fields t) ∧ ∀ n, n ≠ name → root'.get? n = root.get? n := by
  rcases completeSection_eq_ok h with ⟨hnone, rfl⟩ | ⟨t, hsome, rfl⟩
  · refine ⟨⟨withFields fields (TableOf.fresh false), ?_, hasFields_withFields fields _⟩, fun n hn => ?_⟩
    · rw [TableOf.get?_append, hnone, Option.none_or]
      exact if_pos rfl
    · rw [TableOf.get?_append, if_neg (show (Key.bare name).name ≠ n from hn.symm), Option.or_none]
  · exact ⟨⟨_, TableOf.get?_replace_self hsome _, hasFields_withFields fields t⟩,
      fun n hn => TableOf.get?_replace_of_ne hn _⟩

/-- mappings that are completed leave the other fields of their section, and the other sections -/
theorem completeMappings_get? (hresources : root.get? "resources".toList = some (.table t)) :
    (∃ u, (completeMappings root).1.get? "resources".toList = some (.table u) ∧ (∀ n, u.has n = t.has n) ∧
      MappingsComplete u) ∧
      ∀ n, n ≠ "resources".toList → (completeMappings root).1.get? n = root.get? n := by
  rcases completeMappings_cases root with ⟨t', ts, ht', hmappings, heq⟩ | ⟨heq, hother⟩
  · rw [hresources, Option.some.injEq, Item.table.injEq] at ht'
    subst ht'
    rw [heq]
    refine ⟨⟨_, TableOf.get?_replace_self hresources _, TableOf.has_replace t _ _, fun ts' hts' m hm => ?_⟩,
      fun n hn => TableOf.get?_replace_of_ne hn _⟩
    rw [TableOf.get?_replace_self hmappings] at hts'
    cases hts'
    obtain ⟨m, -, rfl⟩ := List.mem_map.1 hm
    exact hasFields_withFields [mappingDefault] m _ List.mem_cons_self
  · rw [heq]
    exact ⟨⟨t, hresources, fun _ => rfl, fun ts hts => absurd hts (hother t ts hresources)⟩, fun _ _ => rfl⟩

/-- **A completion is complete** -/
theorem completed_of_complete (h : d.complete = .ok (d', names)) : Completed d'.root := by
  obtain ⟨server, resources, _, _, hserver, hresources, rfl, -⟩ := complete_stages h
  obtain ⟨⟨s, hs, hsfields⟩, -⟩ := completeSection_get? hserver
  obtain ⟨⟨r, hr, hrfields⟩, hothers⟩ := completeSection_get? hresources
  obtain ⟨⟨u, hu, hhas, hmappings⟩, hothers'⟩ := completeMappings_get? hr
  refine ⟨⟨s, ?_, hsfields⟩, ⟨u, hu, fun f hf => ?_, hmappings⟩⟩
  · rw [hothers' _ (by decide), hothers _ (by decide), hs]
  · rw [hhas]
    exact hrfields f hf

/-! ## Parts that are in their place -/

/-- the parts that a completion puts in their place are there already -/
structure Steady (root : Table) : Prop where
  server : root.Settled "server".toList
  resources : root.Settled "resources".toList
  mappings : ∀ t ts, root.get? "resources".toList = some (.table t) → t.get? "mappings".toList = some (.tables ts) →
    t.Settled "mappings".toList

theorem steady_of_distinct (h : (Item.table root).Distinct) : Steady root where
  server := TableOf.settled_of_nodup h.keys _
  resources := TableOf.settled_of_nodup h.keys _
  mappings _ _ ht _ := TableOf.settled_of_nodup (h.of_get? ht).keys _

theorem completeSection_settled (h : completeSection name fields root = .ok (root', names)) :
    root'.Settled name ∧ ∀ n, n ≠ name → root.Settled n → root'.Settled n := by
  rcases completeSection_eq_ok h with ⟨hnone, rfl⟩ | ⟨t, -, rfl⟩
  · exact ⟨TableOf.settled_append rfl hnone _, fun n hn hroot => hroot.append hn.symm _⟩
  · exact ⟨TableOf.settled_replace _ _ _, fun n hn hroot => hroot.replace hn _⟩

theorem completeMappings_steady (hserver : root.Settled "server".toList)
    (hresources : root.Settled "resources".toList) : Steady (completeMappings root).1 := by
  rcases completeMappings_cases root with ⟨t, ts, ht, -, heq⟩ | ⟨heq, hother⟩
  · rw [heq]
    refine ⟨hserver.replace (by decide) _, TableOf.settled_replace _ _ _, fun t' _ ht' _ => ?_⟩
    rw [TableOf.get?_replace_self ht, Option.some.injEq, Item.table.injEq] at ht'
    rw [← ht']
    exact TableOf.settled_replace _ _ _
  · rw [heq]
    exact ⟨hserver, hresources, fun t ts ht hts => absurd hts (hother t ts ht)⟩

theorem steady_of_complete (h : d.complete = .ok (d', names)) : Steady d'.root := by
  obtain ⟨server, resources, _, _, hserver, hresources, rfl, -⟩ := complete_stages h
  obtain ⟨hsettled, hothers⟩ := completeSection_settled hresources
  exact completeMappings_steady (hothers _ (by decide) (completeSection_settled hserver).1) hsettled

/-! ## In another order -/

theorem HasFields.of_alike (h : HasFields fields t) (halike : (Item.table t).Alike (.table u)) :
    HasFields fields u := by
  cases halike with
  | table keys _ =>
    intro f hf
    rw [← keys]
    exact h f hf

theorem exists_table_of_alike (halike : (Item.table root).Alike (.table root'))
    (h : root.get? name = some (.table t)) :
    ∃ u, root'.get? name = some (.table u) ∧ (Item.table t).Alike (.table u) := by
  have hname := halike.rel_get? name
  rw [h] at hname
  generalize hy : root'.get? name = found at hname
  cases hname with
  | some hitem =>
    cases hitem with
    | table keys items => exact ⟨_, rfl, .table keys items⟩

theorem MappingsComplete.of_alike (h : MappingsComplete t) (halike : (Item.table t).Alike (.table u)) :
    MappingsComplete u := by
  intro us hus m hm
  have hname := halike.rel_get? "mappings".toList
  rw [hus] at hname
  generalize hfound : t.get? "mappings".toList = found at hname
  cases hname with
  | some hitem =>
    cases hitem with
    | @tables ts _ hlength heach =>
      obtain ⟨i, hi, rfl⟩ := List.mem_iff_getElem.1 hm
      have hpair : (ts[i], us[i]) ∈ ts.zip us := by
        rw [← List.getElem_zip (h := by simpa [hlength] using hi)]
        exact List.getElem_mem _
      cases heach _ hpair with
      | table keys _ =>
        rw [← keys]
        exact h ts hfound _ (List.getElem_mem _)

theorem Completed.of_alike (h : Completed root) (halike : (Item.table root).Alike (.table root')) :
    Completed root' := by
  obtain ⟨⟨s, hs, hsfields⟩, r, hr, hrfields, hmappings⟩ := h
  obtain ⟨s', hs', hsalike⟩ := exists_table_of_alike halike hs
  obtain ⟨r', hr', hralike⟩ := exists_table_of_alike halike hr
  exact ⟨⟨s', hs', hsfields.of_alike hsalike⟩, ⟨r', hr', hrfields.of_alike hralike, hmappings.of_alike hralike⟩⟩

/-! ## A second completion -/

theorem missingFields_of_hasFields (h : HasFields fields t) : missingFields fields t = [] := by
  refine List.filter_eq_nil_iff.2 fun f hf => ?_
  rw [h f hf]
  exact Bool.false_ne_true

theorem withFields_of_hasFields (h : HasFields fields t) : withFields fields t = t := by
  rw [withFields, missingFields_of_hasFields h, List.map_nil, List.append_nil]

theorem completeSection_of_hasFields (hroot : root.Settled name) (h : root.get? name = some (.table t))
    (hfields : HasFields fields t) : completeSection name fields root = .ok (root, []) := by
  rw [completeSection, h]
  dsimp only
  rw [withFields_of_hasFields hfields, missingFields_of_hasFields hfields, hroot _ h, List.map_nil]

theorem missingMappingFields_eq_nil {ts : List Table} (h : ∀ m ∈ ts, m.has mappingDefault.1 = true) (index : ℕ) :
    missingMappingFields index ts = [] := by
  induction ts generalizing index with
  | nil => rfl
  | cons m ts ih =>
    rw [List.forall_mem_cons] at h
    rw [missingMappingFields, if_pos h.1, ih h.2, List.append_nil]

theorem completeMappings_of_complete (hroot : Steady root) (h : root.get? "resources".toList = some (.table t))
    (hmappings : MappingsComplete t) : completeMappings root = (root, []) := by
  rcases completeMappings_cases root with ⟨t', ts, ht', hts, heq⟩ | ⟨heq, -⟩
  · rw [h, Option.some.injEq, Item.table.injEq] at ht'
    subst ht'
    have hall := hmappings ts hts
    have hsame : ts.map (withFields [mappingDefault]) = ts := by
      refine (List.map_congr_left fun m hm => ?_).trans (List.map_id ts)
      exact withFields_of_hasFields fun f hf => by rw [List.mem_singleton.1 hf]; exact hall m hm
    rw [heq, hsame, hroot.mappings _ _ h hts _ hts, hroot.resources _ h, missingMappingFields_eq_nil hall]
  · exact heq

/-- **A complete document is untouched** -/
theorem complete_of_completed (h : Completed d.root) (hd : Steady d.root) : d.complete = .ok (d, []) := by
  obtain ⟨⟨s, hs, hsfields⟩, r, hr, hrfields, hmappings⟩ := h
  rw [Document.complete, completeSection_of_hasFields hd.server hs hsfields]
  dsimp only
  rw [completeSection_of_hasFields hd.resources hr hrfields]
  dsimp only
  rw [completeMappings_of_complete hd hr hmappings]
  rfl

/-- completing a document once more changes nothing -/
theorem complete_again (h : d.complete = .ok (d', names)) : d'.complete = .ok (d', []) :=
  complete_of_completed (completed_of_complete h) (steady_of_complete h)

/-! ## What can be completed -/

/-- the section of a name stands under a header or dotted keys, or is absent -/
def SectionFits (root : Table) (name : Text) : Prop := root.get? name = none ∨ ∃ t, root.get? name = some (.table t)

instance (root : Table) (name : Text) : Decidable (SectionFits root name) :=
  match h : root.get? name with
  | none => isTrue (.inl h)
  | some (.table t) => isTrue (.inr ⟨t, h⟩)
  | some (.value v) => isFalse (by rw [SectionFits, h]; simp)
  | some (.tables ts) => isFalse (by rw [SectionFits, h]; simp)

theorem exists_completeSection (h : SectionFits root name) (fields : List (Text × Value)) :
    ∃ root' names, completeSection name fields root = .ok (root', names) := by
  rw [completeSection]
  rcases h with hnone | ⟨t, hsome⟩
  · rw [hnone]
    exact ⟨_, _, rfl⟩
  · rw [hsome]
    exact ⟨_, _, rfl⟩

theorem exists_complete (hserver : SectionFits d.root "server".toList)
    (hresources : SectionFits d.root "resources".toList) : ∃ d' names, d.complete = .ok (d', names) := by
  obtain ⟨server, serverNames, hs⟩ := exists_completeSection hserver serverDefaults
  have hothers := (completeSection_get? hs).2 "resources".toList (by decide)
  have hresources' : SectionFits server "resources".toList := by
    rw [SectionFits, hothers]
    exact hresources
  obtain ⟨resources, resourceNames, hr⟩ := exists_completeSection hresources' resourceDefaults
  rw [Document.complete, hs]
  dsimp only
  rw [hr]
  exact ⟨_, _, rfl⟩

/-- a section that is written as a value is refused -/
theorem completeSection_of_not_fits (h : ¬ SectionFits root name) (fields : List (Text × Value)) :
    completeSection name fields root = .error (.notATable name) := by
  rw [completeSection]
  split
  · rename_i hnone
    exact absurd (.inl hnone) h
  · rename_i t hsome
    exact absurd (.inr ⟨t, hsome⟩) h
  · rfl

theorem complete_of_server_not_fits (h : ¬ SectionFits d.root "server".toList) :
    d.complete = .error (.notATable "server".toList) := by
  rw [Document.complete, completeSection_of_not_fits h]

theorem complete_of_resources_not_fits (hserver : SectionFits d.root "server".toList)
    (h : ¬ SectionFits d.root "resources".toList) : d.complete = .error (.notATable "resources".toList) := by
  obtain ⟨server, names, hs⟩ := exists_completeSection hserver serverDefaults
  have hresources : ¬ SectionFits server "resources".toList := by
    rw [SectionFits, (completeSection_get? hs).2 "resources".toList (by decide)]
    exact h
  rw [Document.complete, hs]
  dsimp only
  rw [completeSection_of_not_fits hresources]

end ResourceServer
