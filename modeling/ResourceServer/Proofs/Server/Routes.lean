/-
The route table of some settings has two mappings: the endpoints, and behind them the files.

- `routeTable_ok_iff`: it is made just if no enabled pattern is blank and their keys are distinct.
- `routeTable_mappings`: the files are the resources of the table, one for each enabled mapping, under the key of its
  pattern.
-/
import ResourceServer.Proofs.Routing.Table
import ResourceServer.Server.State

namespace ResourceServer

open Routing Resource

/-- the mapping of the endpoints, as it is registered -/
def endpointTable : Mapping where
  name := "api".toList
  order := 0
  entries := ⟨[(Endpoint.mappings.path, .endpoint Endpoint.mappings.name),
    (Endpoint.resourceUrl.path, .endpoint Endpoint.resourceUrl.name)], by decide⟩
  kept := by decide

/-- the mapping of some files, as it is registered -/
def fileTable (files : Bindings ResourceHandler) (h : ∀ k ∈ files.keys, patternKey k = k) : Mapping where
  name := "resources".toList
  order := 1
  entries := files.mapValues .resource
  kept := by simpa using h

theorem endpointMapping_eq : endpointMapping = .ok endpointTable := rfl

theorem mem_endpointTable_iff {e : Text × Handler} :
    e ∈ endpointTable.entries ↔ e = (Endpoint.mappings.path, .endpoint Endpoint.mappings.name) ∨
      e = (Endpoint.resourceUrl.path, .endpoint Endpoint.resourceUrl.name) := by
  rw [← Bindings.mem_toList, endpointTable, List.mem_cons, List.mem_singleton]

theorem endpointTable_get?_eq_none {k : Text} (h₁ : k ≠ Endpoint.resourceUrl.path) (h₂ : k ≠ Endpoint.mappings.path) :
    endpointTable.entries.get? k = none := by
  refine Text.lookup_eq_none_iff.2 fun e he hk => ?_
  rcases mem_endpointTable_iff.1 he with rfl | rfl
  · exact h₂ hk.symm
  · exact h₁ hk.symm

theorem fileTable_entries (files : Bindings ResourceHandler) (h : ∀ k ∈ files.keys, patternKey k = k) :
    (fileTable files h).entries = files.mapValues .resource := rfl

theorem fileTable_get? (files : Bindings ResourceHandler) (h : ∀ k ∈ files.keys, patternKey k = k) (k : Text) :
    (fileTable files h).entries.get? k = (files.get? k).map .resource := Bindings.get?_mapValues _ files k

theorem kept_files (m : Mapping) : ∀ k ∈ m.files.keys, patternKey k = k := by
  intro k hk
  obtain ⟨f, hin⟩ := Bindings.mem_keys_iff.1 hk
  exact m.kept k (Bindings.mem_keys_of_mem (Mapping.mem_files_iff.1 hin))

variable {r : ResourceSettings} {table : RouteTable}

/-- the mapping of some settings binds the keys of the enabled mappings to their files -/
theorem resourceMapping_eq_ok {m : Mapping} (h : resourceMapping r = .ok m) :
    m = fileTable m.files (kept_files m) ∧
      ∀ k f, (k, f) ∈ m.files ↔ ∃ s ∈ r.enabledMappings, k = patternKey s.pattern ∧ f = .plain s.locations := by
  obtain ⟨hname, horder, hmem⟩ := registerAll_mem_iff (fun s : MappingSettings => s.pattern)
    (fun s => .resource (.plain s.locations)) r.enabledMappings h
  have hmem' : ∀ k v, (k, v) ∈ m.entries ↔
      ∃ s ∈ r.enabledMappings, k = patternKey s.pattern ∧ v = .resource (.plain s.locations) := by
    intro k v
    rw [hmem]
    exact or_iff_right (Bindings.not_mem_empty _)
  refine ⟨Mapping.ext hname horder (Bindings.ext_of_mem_iff fun ⟨k, v⟩ => ?_), fun k f => ?_⟩
  · rw [fileTable_entries, Bindings.mem_mapValues_iff]
    constructor
    · intro hin
      obtain ⟨s, -, -, rfl⟩ := (hmem' k v).1 hin
      exact ⟨_, Mapping.mem_files_iff.2 hin, rfl⟩
    · rintro ⟨f, hin, rfl⟩
      exact Mapping.mem_files_iff.1 hin
  · rw [Mapping.mem_files_iff, hmem']
    simp

theorem routeTable_eq_ok (h : routeTable r = .ok table) :
    ∃ m, resourceMapping r = .ok m ∧ table = .ofMappings [endpointTable, m] := by
  rw [routeTable, endpointMapping_eq] at h
  cases hm : resourceMapping r with
  | error e => rw [hm] at h; cases h
  | ok m =>
    rw [hm] at h
    cases h
    exact ⟨m, rfl, rfl⟩

theorem ofMappings_pair {a b : Mapping} (h : a.order ≤ b.order) : RouteTable.ofMappings [a, b] = ⟨[a, b]⟩ := by
  rw [RouteTable.ofMappings, List.mergeSort_of_pairwise]
  simpa using h

/-- the route table fails just as the mapping of the files does -/
theorem routeTable_eq_error_iff {e : RoutingError} : routeTable r = .error e ↔ resourceMapping r = .error e := by
  rw [routeTable, endpointMapping_eq]
  cases resourceMapping r <;> simp

/-- **A route table is made** just if no enabled pattern is blank and no two have the same key -/
theorem routeTable_ok_iff :
    (∃ table, routeTable r = .ok table) ↔
      (∀ s ∈ r.enabledMappings, Text.trim s.pattern ≠ []) ∧
        (r.enabledMappings.map fun s => patternKey s.pattern).Nodup := by
  have hfiles : (∃ table, routeTable r = .ok table) ↔ ∃ m, resourceMapping r = .ok m := by
    rw [routeTable, endpointMapping_eq]
    cases resourceMapping r <;> simp
  rw [hfiles, resourceMapping, registerAll_ok_iff]
  simp

/-- **The route table of some settings**: the endpoints first, then the files, which are the resources of the table -/
theorem routeTable_mappings (h : routeTable r = .ok table) :
    ∃ files hkept, table.mappings = [endpointTable, fileTable files hkept] ∧ table.resources = files.toList ∧
      ∀ k f, (k, f) ∈ files ↔ ∃ s ∈ r.enabledMappings, k = patternKey s.pattern ∧ f = .plain s.locations := by
  obtain ⟨m, hm, rfl⟩ := routeTable_eq_ok h
  obtain ⟨htable, hmem⟩ := resourceMapping_eq_ok hm
  have horder : endpointTable.order ≤ m.order := by
    rw [htable]
    change (0 : ℤ) ≤ 1
    decide
  refine ⟨m.files, kept_files m, ?_, ?_, hmem⟩
  · rw [ofMappings_pair horder, ← htable]
  · have hnone : endpointTable.files.toList = [] := rfl
    rw [ofMappings_pair horder, RouteTable.resources, List.flatMap_cons, List.flatMap_singleton, hnone, List.nil_append]

theorem mem_resources_of_routeTable (h : routeTable r = .ok table) (k : Text) (f : ResourceHandler) :
    (k, f) ∈ table.resources ↔ ∃ s ∈ r.enabledMappings, k = patternKey s.pattern ∧ f = .plain s.locations := by
  obtain ⟨files, -, -, hresources, hmem⟩ := routeTable_mappings h
  rw [hresources, Bindings.mem_toList, hmem]

end ResourceServer
