/-
What a route table finds and serves: a hit is an entry of one of the mappings, and `resources` holds the entries with
files of all of them.

`Mapping.files?` are the files that one mapping has under a pattern. `lookup_reverse_resources`: among the resources,
the last ones under a pattern are those of the last mapping that has files under it.
-/
import ResourceServer.Proofs.Routing.Mapping

namespace ResourceServer.Routing

open Resource (ResourceHandler)

variable {matcher : Glob.PathMatcher} {path : Text} {hit : Hit}

theorem Mapping.lookup?_mem {m : Mapping} (h : m.lookup? matcher path = some hit) :
    (hit.pattern, hit.handler) ∈ m.entries := by
  rw [Mapping.lookup?] at h
  split at h
  · rename_i handler hget
    cases h
    exact Bindings.mem_of_get? hget
  · obtain ⟨e, he, rfl⟩ := Option.map_eq_some_iff.1 h
    exact (bestMatch?_mem he).1

theorem RouteTable.lookup?_mem {table : RouteTable} (h : table.lookup? matcher path = some hit) :
    ∃ m ∈ table.mappings, (hit.pattern, hit.handler) ∈ m.entries := by
  obtain ⟨m, hm, hlookup⟩ := List.exists_of_findSome?_eq_some h
  exact ⟨m, hm, Mapping.lookup?_mem hlookup⟩

theorem Handler.resource?_eq_some_iff {handler : Handler} {f : ResourceHandler} :
    handler.resource? = some f ↔ handler = .resource f := by
  cases handler <;> simp [Handler.resource?]

theorem Mapping.mem_files_iff {m : Mapping} {k : Text} {f : ResourceHandler} :
    (k, f) ∈ m.files ↔ (k, Handler.resource f) ∈ m.entries := by
  simp [Mapping.files, Bindings.mem_filterMapValues_iff, Handler.resource?_eq_some_iff]

theorem RouteTable.mem_resources_iff {table : RouteTable} {k : Text} {f : ResourceHandler} :
    (k, f) ∈ table.resources ↔ ∃ m ∈ table.mappings, (k, Handler.resource f) ∈ m.entries := by
  simp only [RouteTable.resources, List.mem_flatMap, Bindings.mem_toList, Mapping.mem_files_iff]

/-- some mapping has files under the pattern -/
def RouteTable.Serves (table : RouteTable) (k : Text) : Prop :=
  ∃ m ∈ table.mappings, ∃ f, (k, Handler.resource f) ∈ m.entries

theorem RouteTable.serves_iff {table : RouteTable} {k : Text} : table.Serves k ↔ ∃ f, (k, f) ∈ table.resources := by
  simp only [RouteTable.Serves, RouteTable.mem_resources_iff]
  constructor
  · rintro ⟨m, hm, f, hin⟩
    exact ⟨f, m, hm, hin⟩
  · rintro ⟨f, m, hm, hin⟩
    exact ⟨m, hm, f, hin⟩

/-- a hit on files is one of the table's resources -/
theorem RouteTable.hit_mem_resources {table : RouteTable} {f : ResourceHandler}
    (h : table.lookup? matcher path = some hit) (hf : hit.handler.resource? = some f) :
    (hit.pattern, f) ∈ table.resources := by
  obtain ⟨m, hm, hin⟩ := RouteTable.lookup?_mem h
  rw [Handler.resource?_eq_some_iff.1 hf] at hin
  exact RouteTable.mem_resources_iff.2 ⟨m, hm, hin⟩

/-! ## The files under a pattern -/

/-- the files that a mapping has under a pattern -/
def Mapping.files? (m : Mapping) (k : Text) : Option ResourceHandler := (m.entries.get? k).bind Handler.resource?

theorem Mapping.get?_files (m : Mapping) (k : Text) : m.files.get? k = m.files? k := Bindings.get?_filterMapValues _ _ k

theorem RouteTable.lookup_reverse_resources (table : RouteTable) (k : Text) :
    table.resources.reverse.lookup k = table.mappings.reverse.findSome? (·.files? k) := by
  obtain ⟨mappings⟩ := table
  rw [RouteTable.resources]
  induction mappings with
  | nil => rfl
  | cons m mappings ih =>
    rw [List.flatMap_cons, List.reverse_append, List.lookup_append, ih, Bindings.lookup_reverse_toList,
      Mapping.get?_files, List.reverse_cons, List.findSome?_append, List.findSome?_singleton]

end ResourceServer.Routing
