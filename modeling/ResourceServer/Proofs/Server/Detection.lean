/-
Which files a provider takes for a pattern that several mappings have.

A look-up and a list of public patterns take the first mapping that has a pattern. A refresh binds the files of one
mapping after the other, so that the last mapping with files under a pattern counts.
- `refresh_shared`: what a new provider binds, and when this is what the first mapping has.
- `refresh_agrees_of_routeTable`: in the route table of some settings no two mappings have files, and the provider binds
  what the public patterns take.
- `shared_detected_late`: of two mappings with files under one pattern the provider takes the second one's, and a
  look-up the first one's.
-/
import ResourceServer.Proofs.PublicUrl.LifeCycle
import ResourceServer.Proofs.Server.Exposed

namespace ResourceServer

open Routing Resource PublicUrl

variable {table : RouteTable} {m : Mapping} {front back : List Mapping} {k : Text} {f : ResourceHandler}

theorem refresh_get? (table : RouteTable) (k : Text) :
    (Provider.initial.refresh table).handlers.get? k = table.mappings.reverse.findSome? (·.files? k) := by
  rw [Provider.refresh_of_autodetect rfl, Bindings.get?_insertAll, RouteTable.lookup_reverse_resources,
    Bindings.get?_empty, Option.or_none]

/-- the public patterns take the first mapping that has the pattern -/
theorem publicHandler?_of_first (hsplit : table.mappings = front ++ m :: back)
    (hfront : ∀ m' ∈ front, m'.entries.get? k = none) (hk : m.entries.get? k = some (.resource f)) :
    publicHandler? table k = some f := by
  have hfirst : table.mappings.findSome? (fun m => m.entries.get? k) = some (.resource f) :=
    List.findSome?_eq_some_iff.2 ⟨front, m, back, hsplit, hk, hfront⟩
  rw [publicHandler?, Text.rootedForm_of_rooted (m.rooted_of_mem (Bindings.mem_of_get? hk)), hfirst]
  rfl

/-- so does a look-up, if no mapping before it matches the path in another way -/
theorem lookup?_of_first {matcher : Glob.PathMatcher} (hsplit : table.mappings = front ++ m :: back)
    (hfront : ∀ m' ∈ front, m'.lookup? matcher k = none) (hk : m.entries.get? k = some (.resource f)) :
    table.lookup? matcher k = some ⟨k, .resource f, k⟩ := by
  have hhit : m.lookup? matcher k = some ⟨k, .resource f, k⟩ := by
    rw [Mapping.lookup?, hk]
  exact List.findSome?_eq_some_iff.2 ⟨front, m, back, hsplit, hhit, hfront⟩

/-- **What a refresh detects.** A new provider binds each pattern to the files of the last mapping that has files under
it. Where the first mapping with the pattern has files, which are those that the public patterns and a look-up take, the
provider binds these files just if the last of the later mappings with files under the pattern, if any, has the same. -/
theorem refresh_shared (table : RouteTable) :
    (∀ k, (Provider.initial.refresh table).handlers.get? k = table.mappings.reverse.findSome? (·.files? k)) ∧
    ∀ front m back k f, table.mappings = front ++ m :: back → (∀ m' ∈ front, m'.entries.get? k = none) →
      m.entries.get? k = some (.resource f) →
        publicHandler? table k = some f ∧
        (∀ matcher, (∀ m' ∈ front, m'.lookup? matcher k = none) →
          table.lookup? matcher k = some ⟨k, .resource f, k⟩) ∧
        ((Provider.initial.refresh table).handlers.get? k = some f ↔
          ∀ g, back.reverse.findSome? (·.files? k) = some g → g = f) := by
  refine ⟨refresh_get? table, fun front m back k f hsplit hfront hk => ?_⟩
  refine ⟨publicHandler?_of_first hsplit hfront hk, fun matcher hmiss => lookup?_of_first hsplit hmiss hk, ?_⟩
  have hfiles : m.files? k = some f := by
    rw [Mapping.files?, hk]
    rfl
  rw [refresh_get?, hsplit, List.reverse_append, List.reverse_cons, List.append_assoc, List.findSome?_append]
  cases back.reverse.findSome? (·.files? k) with
  | none => simp [hfiles]
  | some g => simp

/-- **In the route table of some settings** a provider detects the files that the public patterns take -/
theorem refresh_agrees_of_routeTable {r : ResourceSettings} {p : Text} (ht : routeTable r = .ok table)
    (hp : publicHandler? table p = some f) :
    (Provider.initial.refresh table).handlers.get? (Text.rootedForm p) = some f := by
  obtain ⟨-, m, hm, hkey, rfl⟩ := (publicHandler?_eq_some_iff ht).1 hp
  obtain ⟨files, -, -, hresources, hmem⟩ := routeTable_mappings ht
  rw [Provider.refresh_of_autodetect rfl, hresources, Bindings.insertAll_toList, Bindings.get?_eq_some_iff, hmem]
  exact ⟨m, hm, hkey.symm, rfl⟩

/-! ## Two mappings with files under one pattern -/

/-- `/a` and `/b` have files in `x` -/
def earlyMapping : Mapping where
  name := "early".toList
  order := 0
  entries := ⟨[("/a".toList, .resource (.plain [['x']])), ("/b".toList, .resource (.plain [['x']]))], by decide⟩
  kept := by decide

/-- `/a` has files in `y` -/
def lateMapping : Mapping where
  name := "late".toList
  order := 1
  entries := ⟨[("/a".toList, .resource (.plain [['y']]))], by decide⟩
  kept := by decide

/-- both mappings, `/a` shared -/
def sharedTable : RouteTable := .ofMappings [earlyMapping, lateMapping]

theorem sharedTable_mappings : sharedTable.mappings = [earlyMapping, lateMapping] := by
  rw [sharedTable, ofMappings_pair (by decide)]

/-- `/a` is taken from the late mapping, and `/b` from the early one -/
theorem refresh_shared_two :
    (Provider.initial.refresh sharedTable).handlers.get? "/a".toList = some (.plain [['y']]) ∧
      (Provider.initial.refresh sharedTable).handlers.get? "/b".toList = some (.plain [['x']]) ∧
      publicHandler? sharedTable "/b".toList = some (.plain [['x']]) := by
  obtain ⟨hlast, hfirst⟩ := refresh_shared sharedTable
  obtain ⟨hpublic, -, hiff⟩ := hfirst [] earlyMapping [lateMapping] "/b".toList (.plain [['x']]) sharedTable_mappings
    (by simp) rfl
  refine ⟨?_, hiff.2 fun g hg => ?_, hpublic⟩
  · rw [hlast, sharedTable_mappings]
    rfl
  · have hnone : [lateMapping].reverse.findSome? (·.files? "/b".toList) = none := rfl
    rw [hnone] at hg
    cases hg

theorem shared_detected_late :
    sharedTable.mappings.findSome? (·.entries.get? "/a".toList) = some (.resource (.plain [['x']])) ∧
      publicHandler? sharedTable "/a".toList = some (.plain [['x']]) ∧
      sharedTable.lookup? .standard "/a".toList = some ⟨"/a".toList, .resource (.plain [['x']]), "/a".toList⟩ ∧
      (Provider.initial.refresh sharedTable).handlers.get? "/a".toList ≠ some (.plain [['x']]) := by
  have hnone : ∀ m' ∈ ([] : List Mapping), m'.lookup? .standard "/a".toList = none := by simp
  refine ⟨?_, ?_, lookup?_of_first sharedTable_mappings hnone rfl, ?_⟩
  · rw [sharedTable_mappings]
    rfl
  · rw [publicHandler?, sharedTable_mappings]
    rfl
  · rw [refresh_get?, sharedTable_mappings]
    intro h
    have hlocations := congrArg (·.map ResourceHandler.locations) h
    exact absurd hlocations (by decide)

end ResourceServer
