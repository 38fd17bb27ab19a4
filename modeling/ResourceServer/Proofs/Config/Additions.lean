/-
What a completion adds to a document.

`wanted` lists the keys that a complete document has, each with its place and the name under which it is reported, and
`lacking` those of them that are not there. A completion adds these, in this order, and does nothing else. Each of its
three steps asks on its own what is missing. The earlier steps do not change the answer (`filter_of_adds`), since none
of the keys that they add is one that a later step asks for.
- `completeSection_adds`, `completeMappings_adds`: what each step adds.
- `complete_adds`: what all of them add.
- `complete_adds_lacking`: a completion adds what is lacking, reports just that, and is done then. A file that cannot be
  completed, or lacks nothing, is left alone.
-/
import ResourceServer.Proofs.Config.Load
import ResourceServer.Proofs.Toml.Paths

namespace ResourceServer

open Toml Files

/-- a key that a completion may add, and the name under which it is reported -/
structure Addition where
  place : KeyPlace
  report : Text
  deriving DecidableEq, Repr

/-- a section and its fields -/
def sectionAdditions (name : Text) (fields : List (Text × Value)) : List Addition :=
  ⟨⟨[], name⟩, name⟩ :: fields.map fun f => ⟨⟨[.key name], f.1⟩, f.1⟩

/-- the way to the mappings -/
def mappingsPath : KeyPath := [.key "resources".toList, .key "mappings".toList]

/-- the field of a mapping under a header of its own -/
def mappingAddition (index : ℕ) : Addition :=
  ⟨⟨mappingsPath ++ [.index index], mappingDefault.1⟩, mappingFieldName index⟩

/-- how many mappings there are under headers of their own -/
def mappingCount (root : Item) : ℕ :=
  match root.at? mappingsPath with
  | some (.tables ts) => ts.length
  | _ => 0

/-- the keys that the completed document has -/
def wanted (root : Item) : List Addition :=
  sectionAdditions "server".toList serverDefaults ++ sectionAdditions "resources".toList resourceDefaults ++
    (List.range (mappingCount root)).map mappingAddition

/-- the key is not there -/
def Addition.lackingIn (root : Item) (a : Addition) : Bool := (root.at? a.place.path).isNone

/-- those of the keys that are not there -/
def lacking (root : Item) : List Addition := (wanted root).filter (·.lackingIn root)

variable {root root' t u : Table} {name : Text} {fields : List (Text × Value)} {names : List Text} {d d' : Document}
  {x y : Item} {added : List KeyPlace} {additions : List Addition}

/-! ## Sections -/

theorem path_of_mem_sectionAdditions {a : Addition} (h : a ∈ sectionAdditions name fields) :
    a.place.path = [.key name] ∨ ∃ f ∈ fields, a.place.path = [.key name, .key f.1] := by
  rcases List.mem_cons.1 h with rfl | hfield
  · exact .inl rfl
  · obtain ⟨f, hf, rfl⟩ := List.mem_map.1 hfield
    exact .inr ⟨f, hf, rfl⟩

/-- the fields that a section lacks are those that it is completed with -/
theorem filter_sectionAdditions (h : root.get? name = some (.table t)) (fields : List (Text × Value)) :
    (sectionAdditions name fields).filter (·.lackingIn (.table root)) =
      (missingFields fields t).map fun f => ⟨⟨[.key name], f.1⟩, f.1⟩ := by
  have hsection : ¬ Addition.lackingIn (.table root) ⟨⟨[], name⟩, name⟩ = true := by
    change ¬ ((Item.table root).at? [.key name]).isNone = true
    rw [Item.at?_single, h]
    exact Bool.false_ne_true
  rw [sectionAdditions, List.filter_cons_of_neg hsection, List.filter_map, missingFields]
  congr 1
  refine List.filter_congr fun f _ => ?_
  change ((Item.table root).at? [.key name, .key f.1]).isNone = !t.has f.1
  rw [Item.at?_key_of_get? h, Item.at?_single, TableOf.has, Option.not_isSome]

/-- a section that is absent lacks all of its fields -/
theorem filter_sectionAdditions_of_none (h : root.get? name = none) (fields : List (Text × Value)) :
    (sectionAdditions name fields).filter (·.lackingIn (.table root)) = sectionAdditions name fields := by
  refine List.filter_eq_self.2 fun a ha => ?_
  rw [Addition.lackingIn]
  rcases path_of_mem_sectionAdditions ha with hpath | ⟨f, -, hpath⟩
  · rw [hpath, Item.at?_key_of_none h, Option.isNone_none]
  · rw [hpath, Item.at?_key_of_none h, Option.isNone_none]

theorem withFields_adds (fields : List (Text × Value)) (t : Table) :
    (Item.table t).Adds ((missingFields fields t).map fun f => ⟨[], f.1⟩) (.table (withFields fields t)) := by
  have hadds := Item.adds_entries t ((missingFields fields t).map fun f => (f.1, .value f.2)) fun e he => by
    obtain ⟨f, -, rfl⟩ := List.mem_map.1 he
    exact Item.childless_value f.2
  rw [List.map_map, List.map_map] at hadds
  exact hadds

/-- a section that is absent is put behind the others and then gets its fields -/
theorem append_adds (h : root.get? name = none) (fields : List (Text × Value)) :
    (Item.table root).Adds ((sectionAdditions name fields).map (·.place))
      (.table (root.append (Key.bare name) (.table (withFields fields (TableOf.fresh false))))) := by
  have hsection := Item.adds_entries root [(name, .table (TableOf.fresh false))] fun e he => by
    rw [List.mem_singleton.1 he]
    exact Item.childless_fresh false
  have hkey : (Key.bare name).name = name := rfl
  have hget : (root.append (Key.bare name) (.table (TableOf.fresh false))).get? name =
      some (.table (TableOf.fresh false)) := by
    rw [TableOf.get?_append, h, Option.none_or, if_pos hkey]
  have hmissing : missingFields fields (TableOf.fresh false) = fields := List.filter_eq_self.2 fun _ _ => rfl
  have hfields := (withFields_adds fields (TableOf.fresh false)).replace hget
  rw [TableOf.append_replace_self hkey h, hmissing, List.map_map] at hfields
  rw [sectionAdditions, List.map_cons, List.map_map]
  exact hsection.trans hfields

/-- **A section gets what it lacks** -/
theorem completeSection_adds (h : completeSection name fields root = .ok (root', names)) :
    names = ((sectionAdditions name fields).filter (·.lackingIn (.table root))).map (·.report) ∧
      (Item.table root).Adds (((sectionAdditions name fields).filter (·.lackingIn (.table root))).map (·.place))
        (.table root') := by
  rw [completeSection] at h
  split at h
  · rename_i hnone
    cases h
    rw [filter_sectionAdditions_of_none hnone]
    refine ⟨?_, append_adds hnone fields⟩
    rw [sectionAdditions, List.map_cons, List.map_map]
    rfl
  · rename_i t hsome
    cases h
    have hadds := (withFields_adds fields t).replace hsome
    rw [List.map_map] at hadds
    rw [filter_sectionAdditions hsome, List.map_map, List.map_map]
    exact ⟨rfl, hadds⟩
  · cases h

/-! ## Mappings -/

theorem at?_mappingsPath_eq_some_iff :
    (Item.table root).at? mappingsPath = some x ↔
      ∃ t, root.get? "resources".toList = some (.table t) ∧ t.get? "mappings".toList = some x := by
  rw [mappingsPath, Item.at?_key, Option.bind_eq_some_iff]
  constructor
  · rintro ⟨y, hy, hx⟩
    cases y with
    | table t => exact ⟨t, hy, by rw [← Item.at?_single, hx]⟩
    | value v => cases hx
    | tables ts => cases hx
  · rintro ⟨t, ht, hx⟩
    exact ⟨.table t, ht, by rw [Item.at?_single, hx]⟩

theorem mappingCount_eq {ts : List Table} (h : x.at? mappingsPath = some (.tables ts)) :
    mappingCount x = ts.length := by
  rw [mappingCount, h]

theorem mappingCount_eq_zero (h : ∀ ts, x.at? mappingsPath ≠ some (.tables ts)) : mappingCount x = 0 := by
  rw [mappingCount]
  split
  · rename_i ts hts
    exact absurd hts (h ts)
  · rfl

/-- a mapping lacks its field -/
theorem mappingAddition_lackingIn {ts : List Table} (h : x.at? mappingsPath = some (.tables ts)) {i : ℕ}
    (hi : i < ts.length) : (mappingAddition i).lackingIn x = !ts[i].has mappingDefault.1 := by
  have hpath : (mappingAddition i).place.path = mappingsPath ++ [.index i, .key mappingDefault.1] := rfl
  rw [Addition.lackingIn, hpath, Item.at?_append, h, Option.bind_some, Item.at?_index_of_lt hi, Item.at?_single,
    TableOf.has, Option.not_isSome]

theorem missingMappingFields_eq (index : ℕ) (ts : List Table) :
    missingMappingFields index ts =
      ((ts.zipIdx index).filter fun m => !m.1.has mappingDefault.1).map fun m => mappingFieldName m.2 := by
  induction ts generalizing index with
  | nil => rfl
  | cons t ts ih =>
    rw [missingMappingFields, ih, List.zipIdx_cons, List.filter_cons]
    by_cases h : t.has mappingDefault.1 = true
    · rw [if_pos h, if_neg (by simp [h])]
      rfl
    · rw [if_neg h, if_pos (by simp [h])]
      rfl

section Headers

variable {ts : List Table} (hresources : root.get? "resources".toList = some (.table t))
  (hmappings : t.get? "mappings".toList = some (.tables ts))

include hresources hmappings

theorem reported_mappings :
    missingMappingFields 0 ts = (((List.range ts.length).map mappingAddition).filter
      (·.lackingIn (.table root))).map (·.report) := by
  have hts := at?_mappingsPath_eq_some_iff.2 ⟨t, hresources, hmappings⟩
  rw [missingMappingFields_eq, List.range_eq_range', ← List.zipIdx_map_snd 0 ts, List.map_map, List.filter_map,
    List.map_map]
  have hlacking : ∀ m ∈ ts.zipIdx, (mappingAddition m.2).lackingIn (.table root) = !m.1.has mappingDefault.1 := by
    rintro ⟨m, i⟩ hm
    obtain ⟨hi, hm⟩ := List.mem_zipIdx' hm
    rw [hm]
    exact mappingAddition_lackingIn hts hi
  rw [← List.filter_congr hlacking]
  rfl

theorem replace_mappings_adds :
    (Item.table root).Adds ((((List.range ts.length).map mappingAddition).filter
      (·.lackingIn (.table root))).map (·.place))
      (.table (root.replace "resources".toList
        (.table (t.replace "mappings".toList (.tables (ts.map (withFields [mappingDefault]))))))) := by
  have hts := at?_mappingsPath_eq_some_iff.2 ⟨t, hresources, hmappings⟩
  have heach : ∀ i (hi : i < ts.length), (Item.table ts[i]).Adds
      (([mappingAddition i].filter (·.lackingIn (.table root))).map fun a => ⟨[], a.place.name⟩)
      (.table (withFields [mappingDefault] ts[i])) := by
    intro i hi
    have hadds := withFields_adds [mappingDefault] ts[i]
    rw [missingFields, List.filter_singleton, ← mappingAddition_lackingIn hts hi] at hadds
    rw [List.filter_singleton]
    cases hlacking : (mappingAddition i).lackingIn (.table root) with
    | true => rwa [hlacking] at hadds
    | false => rwa [hlacking] at hadds
  have hadds := ((Item.adds_tables heach).replace hmappings).replace hresources
  rw [List.map_flatMap, List.map_flatMap] at hadds
  rw [← List.flatMap_singleton' ((List.range ts.length).map mappingAddition), List.flatMap_map, List.filter_flatMap,
    List.map_flatMap]
  -- one place per mapping, or none, on both sides
  refine (congrArg (fun places => Item.Adds places _ _) (List.flatMap_congr fun i _ => ?_)).mp hadds
  rw [List.filter_singleton]
  cases (mappingAddition i).lackingIn (.table root) with
  | true => rfl
  | false => rfl

end Headers

/-- **Mappings get what they lack** -/
theorem completeMappings_adds (root : Table) :
    (completeMappings root).2 = (((List.range (mappingCount (.table root))).map mappingAddition).filter
        (·.lackingIn (.table root))).map (·.report) ∧
      (Item.table root).Adds ((((List.range (mappingCount (.table root))).map mappingAddition).filter
        (·.lackingIn (.table root))).map (·.place)) (.table (completeMappings root).1) := by
  rcases completeMappings_cases root with ⟨t, ts, hresources, hmappings, heq⟩ | ⟨heq, hother⟩
  · rw [heq, mappingCount_eq (at?_mappingsPath_eq_some_iff.2 ⟨t, hresources, hmappings⟩)]
    exact ⟨reported_mappings hresources hmappings, replace_mappings_adds hresources hmappings⟩
  · rw [heq, mappingCount_eq_zero fun ts hts => ?_]
    · exact ⟨rfl, .refl _⟩
    · obtain ⟨t, ht, hmappings⟩ := at?_mappingsPath_eq_some_iff.1 hts
      exact hother t ts ht hmappings

/-! ## One step behind another -/

section Steps

variable {others : List Addition} {p : Addition → Bool} (h : x.Adds ((others.filter p).map (·.place)) y)

include h

theorem reached_of_adds {path : KeyPath} (hothers : ∀ b ∈ others, path ≠ b.place.path) :
    (∃ b, y.at? path = some b) ↔ ∃ a, x.at? path = some a := by
  rw [h.reached_iff]
  refine or_iff_left ?_
  rintro ⟨k, hk, hpath⟩
  obtain ⟨b, hb, rfl⟩ := List.mem_map.1 hk
  exact hothers b (List.mem_filter.1 hb).1 hpath

/-- what is lacking of some keys does not change when others are added -/
theorem filter_of_adds (hothers : ∀ a ∈ additions, ∀ b ∈ others, a.place.path ≠ b.place.path) :
    additions.filter (·.lackingIn y) = additions.filter (·.lackingIn x) := by
  refine List.filter_congr fun a ha => ?_
  have hreached := reached_of_adds h (hothers a ha)
  rw [← Option.isSome_iff_exists, ← Option.isSome_iff_exists, ← Bool.eq_iff_iff] at hreached
  rw [Addition.lackingIn, Addition.lackingIn, ← Option.not_isSome, ← Option.not_isSome, hreached]

theorem mappingCount_of_adds (hothers : ∀ b ∈ others, mappingsPath ≠ b.place.path) :
    mappingCount y = mappingCount x := by
  cases hx : x.at? mappingsPath with
  | some a =>
    obtain ⟨b, hb, hkept⟩ := h.keeps _ a hx
    rw [mappingCount, mappingCount, hx, hb]
    cases hkept with
    | value v => rfl
    | table same => rfl
    | tables length => exact length
  | none =>
    have hy : y.at? mappingsPath = none := by
      rw [← Option.not_isSome_iff_eq_none, Option.isSome_iff_exists, reached_of_adds h hothers, hx]
      rintro ⟨_, hnone⟩
      cases hnone
    rw [mappingCount, mappingCount, hx, hy]

end Steps

theorem mappingsPath_ne {a : Addition} (ha : a ∈ sectionAdditions name fields)
    (h : "mappings".toList ∉ fields.map (·.1)) : mappingsPath ≠ a.place.path := by
  intro heq
  rcases path_of_mem_sectionAdditions ha with hpath | ⟨f, hf, hpath⟩
  · rw [hpath] at heq
    exact absurd (congrArg List.length heq) (by simp [mappingsPath])
  · rw [hpath, mappingsPath, List.cons.injEq, List.cons.injEq, KeyStep.key.injEq, KeyStep.key.injEq] at heq
    exact h (List.mem_map.2 ⟨f, hf, heq.2.1.symm⟩)

/-- the field of a mapping is deeper than those of the sections -/
theorem mappingAddition_ne {a : Addition} (ha : a ∈ sectionAdditions name fields) (i : ℕ) :
    (mappingAddition i).place.path ≠ a.place.path := by
  intro heq
  have hlength : (mappingAddition i).place.path.length = 4 := rfl
  rw [heq] at hlength
  rcases path_of_mem_sectionAdditions ha with hpath | ⟨f, -, hpath⟩
  · simp [hpath] at hlength
  · simp [hpath] at hlength

theorem sectionAdditions_ne {name' : Text} {fields' : List (Text × Value)} (hname : name ≠ name') {a b : Addition}
    (ha : a ∈ sectionAdditions name fields) (hb : b ∈ sectionAdditions name' fields') :
    a.place.path ≠ b.place.path := by
  have hhead : ∀ {name fields a}, a ∈ sectionAdditions name fields → a.place.path.head? = some (.key name) := by
    intro name fields a ha
    rcases path_of_mem_sectionAdditions ha with hpath | ⟨f, -, hpath⟩
    · rw [hpath, List.head?_cons]
    · rw [hpath, List.head?_cons]
  intro heq
  have hheads := (hhead ha).symm.trans ((congrArg List.head? heq).trans (hhead hb))
  rw [Option.some.injEq, KeyStep.key.injEq] at hheads
  exact hname hheads

/-- **A completion adds what is lacking** -/
theorem complete_adds (h : d.complete = .ok (d', names)) :
    names = (lacking (.table d.root)).map (·.report) ∧
      (Item.table d.root).Adds ((lacking (.table d.root)).map (·.place)) (.table d'.root) := by
  obtain ⟨server, resources, serverNames, resourceNames, hserver, hresources, rfl, rfl⟩ := complete_stages h
  obtain ⟨hserverNames, hserverAdds⟩ := completeSection_adds hserver
  obtain ⟨hresourceNames, hresourceAdds⟩ := completeSection_adds hresources
  obtain ⟨hmappingNames, hmappingAdds⟩ := completeMappings_adds resources
  have hfields : (sectionAdditions "resources".toList resourceDefaults).filter (·.lackingIn (.table server)) =
      (sectionAdditions "resources".toList resourceDefaults).filter (·.lackingIn (.table d.root)) :=
    filter_of_adds hserverAdds fun a ha b hb => sectionAdditions_ne (by decide) ha hb
  have hcount : mappingCount (.table resources) = mappingCount (.table d.root) :=
    (mappingCount_of_adds hresourceAdds fun b hb => mappingsPath_ne hb (by decide)).trans
      (mappingCount_of_adds hserverAdds fun b hb => mappingsPath_ne hb (by decide))
  have hmappings : ((List.range (mappingCount (.table resources))).map mappingAddition).filter
      (·.lackingIn (.table resources)) =
        ((List.range (mappingCount (.table d.root))).map mappingAddition).filter (·.lackingIn (.table d.root)) := by
    have hne : ∀ a ∈ (List.range (mappingCount (.table d.root))).map mappingAddition, ∀ {name fields},
        ∀ b ∈ sectionAdditions name fields, a.place.path ≠ b.place.path := by
      rintro a ha name fields b hb
      obtain ⟨i, -, rfl⟩ := List.mem_map.1 ha
      exact mappingAddition_ne hb i
    rw [hcount]
    exact (filter_of_adds hresourceAdds fun a ha => hne a ha).trans (filter_of_adds hserverAdds fun a ha => hne a ha)
  rw [hmappings] at hmappingNames hmappingAdds
  rw [hfields] at hresourceNames hresourceAdds
  rw [lacking, wanted, List.filter_append, List.filter_append, List.map_append, List.map_append, List.map_append,
    List.map_append, ← hserverNames, ← hresourceNames, ← hmappingNames]
  exact ⟨rfl, (hserverAdds.trans hresourceAdds).trans hmappingAdds⟩

/-! ## Files -/

section FileParts

variable {tree : FileTree} {path : Text}
  (h : ∀ t d d' names, tree.read path = .ok t → Document.parse? t = some d → d.complete = .ok (d', names) → names = [])

include h

theorem completeFile_of_nothing_lacking :
    (∃ fault, completeFile tree path = .error fault) ∨ completeFile tree path = .ok (tree, []) := by
  cases hfile : completeFile tree path with
  | error fault => exact .inl ⟨fault, rfl⟩
  | ok result =>
    obtain ⟨t, d, d', hread, hparse, hcomplete, hcases⟩ := completeFile_eq_ok_iff.1 hfile
    have hnames := h t d d' _ hread hparse hcomplete
    rcases hcases with ⟨-, htree⟩ | ⟨hne, -⟩
    · exact .inr (by rw [← hnames, ← htree])
    · exact absurd hnames hne

theorem load_of_nothing_lacking (hpresent : tree.present path = true) :
    (Settings.load tree path).tree = tree ∧ (Settings.load tree path).added = [] := by
  rw [Settings.load, provideConfig, if_pos hpresent]
  dsimp only
  rcases completeFile_of_nothing_lacking h with ⟨fault, hfile⟩ | hfile
  · rw [hfile]
    exact ⟨rfl, rfl⟩
  · rw [hfile]
    dsimp only
    cases tree.read path with
    | error fault => exact ⟨rfl, rfl⟩
    | ok t => exact ⟨rfl, rfl⟩

end FileParts

/-! ## Completions -/

theorem complete_ending (h : d.complete = .ok (d', names)) : d'.ending = d.ending := by
  obtain ⟨_, _, _, _, -, -, rfl, -⟩ := complete_stages h
  rfl

/-- **A completion only adds.** The names that it reports are those of the keys that are lacking, in their order, and
these are the keys that are there afterwards and were not there before. What was there is what it was, and each table
has its own keys first, in their order. A second completion reports nothing and changes nothing. A file that cannot be
completed, or lacks nothing, is left as it was. -/
theorem complete_adds_lacking :
    (∀ (d d' : Document) names, d.complete = .ok (d', names) →
      names = (lacking (.table d.root)).map (·.report) ∧
      (∀ path, (∃ y, (Item.table d'.root).at? path = some y) ∧ (Item.table d.root).at? path = none ↔
        ∃ a ∈ lacking (.table d.root), path = a.place.path) ∧
      (∀ path x, (Item.table d.root).at? path = some x →
        ∃ y, (Item.table d'.root).at? path = some y ∧ x.KeptBy y) ∧
      (∀ path, (Item.table d'.root).keysAt path = (Item.table d.root).keysAt path ++
        (namesAt ((lacking (.table d.root)).map (·.place)) path).map Key.bare) ∧
      d'.ending = d.ending ∧ d'.complete = .ok (d', [])) ∧
    ∀ (tree : FileTree) path,
      (∀ t d d' names, tree.read path = .ok t → Document.parse? t = some d → d.complete = .ok (d', names) →
        names = []) →
      ((∃ fault, completeFile tree path = .error fault) ∨ completeFile tree path = .ok (tree, [])) ∧
      (tree.present path = true → (Settings.load tree path).tree = tree ∧ (Settings.load tree path).added = []) := by
  refine ⟨fun d d' names h => ?_, fun tree path h =>
    ⟨completeFile_of_nothing_lacking h, load_of_nothing_lacking h⟩⟩
  obtain ⟨hnames, hadds⟩ := complete_adds h
  refine ⟨hnames, fun path => ?_, hadds.keeps, hadds.keys, complete_ending h, complete_again h⟩
  rw [hadds.reached_iff]
  constructor
  · rintro ⟨⟨a, ha⟩ | ⟨k, hk, rfl⟩, hnone⟩
    · rw [ha] at hnone
      cases hnone
    · obtain ⟨a, ha, rfl⟩ := List.mem_map.1 hk
      exact ⟨a, ha, rfl⟩
  · rintro ⟨a, ha, rfl⟩
    exact ⟨.inr ⟨a.place, List.mem_map_of_mem ha, rfl⟩, Option.isNone_iff_eq_none.1 (List.mem_filter.1 ha).2⟩

theorem complete_adds_lacking_sparse :
    ∃ d' names, sparseDocument.complete = .ok (d', names) ∧ names.length = 14 ∧
      names = (lacking (.table sparseDocument.root)).map (·.report) ∧
      (Item.table d'.root).keysAt (mappingsPath ++ [.index 0]) =
        ["pattern".toList, "locations".toList, "enabled".toList].map Key.bare ∧
      d'.complete = .ok (d', []) ∧ inlineTree.present ['c'] = true ∧
      (Settings.load inlineTree ['c']).tree = inlineTree := by
  obtain ⟨hnames, -, -, hkeys, -, hagain⟩ := complete_adds_lacking.1 sparseDocument _ _ rfl
  have hread : inlineTree.read ['c'] = .ok inlineText := by rfl
  have hmisfit : (Document.parse? inlineText).all (fun d => !decide (SectionFits d.root "server".toList)) = true := by
    decide +kernel
  have hload := complete_adds_lacking.2 inlineTree ['c'] fun t d d' names ht hd hcomplete => by
    rw [hread, Except.ok.injEq] at ht
    rw [ht, hd, Option.all_some, Bool.not_eq_true', decide_eq_false_iff_not] at hmisfit
    rw [complete_of_server_not_fits hmisfit] at hcomplete
    cases hcomplete
  have hpresent : inlineTree.present ['c'] = true := FileTree.present_of_read hread
  refine ⟨_, _, rfl, rfl, hnames, ?_, hagain, hpresent, (hload.2 hpresent).1⟩
  rw [hkeys]
  decide +kernel

end ResourceServer
