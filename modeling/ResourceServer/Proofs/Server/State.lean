/-
What putting settings into force does to the parts of a server's state.

A call fails just if the route table cannot be made. Otherwise the routes are that table, the options those of the
settings, and the provider is configured or refreshed, as the settings have public patterns or not. `sampleState` is a
state to try theorems at.
- `mem_explicit_iff`: what a list of public patterns binds. Patterns with the same rooted form have the same handler, so
  their order does not matter.
- `ServerState.route_handlers_of_autodetect`: without public patterns, what the provider detects.
-/
import ResourceServer.PublicUrl.Provider
import ResourceServer.Proofs.Server.Routes
import ResourceServer.Server.State

namespace ResourceServer

open Files Routing PublicUrl

variable {s s' : ServerState} {c : Settings} {r : ResourceSettings} {table : RouteTable} {signals : List Signal}

/-! ## Public patterns -/

section

variable {patterns : List Text} {k : Text} {h : Resource.ResourceHandler}

theorem publicHandler?_congr {p q : Text} (hpq : Text.rootedForm p = Text.rootedForm q) :
    publicHandler? table p = publicHandler? table q := by
  rw [publicHandler?, publicHandler?, hpq]

theorem mem_explicitHandlers_iff :
    (k, h) ∈ explicitHandlers table patterns ↔
      ∃ p ∈ patterns, Text.rootedForm p = k ∧ publicHandler? table p = some h := by
  rw [explicitHandlers, List.mem_filterMap]
  refine exists_congr fun p => and_congr_right fun _ => ?_
  cases publicHandler? table p <;> simp

/-- a provider that is configured with public patterns binds just the rooted forms of those that have files -/
theorem mem_explicit_iff :
    (k, h) ∈ Bindings.insertAll .empty (explicitHandlers table patterns) ↔
      ∃ p ∈ patterns, Text.rootedForm p = k ∧ publicHandler? table p = some h := by
  rw [Bindings.mem_insertAll_empty_iff, mem_explicitHandlers_iff]
  rintro ⟨k₁, h₁⟩ hx ⟨k₂, h₂⟩ hy hk
  obtain ⟨p, -, hp, hph⟩ := mem_explicitHandlers_iff.1 hx
  obtain ⟨q, -, hq, hqh⟩ := mem_explicitHandlers_iff.1 hy
  rw [publicHandler?_congr ((hp.trans hk).trans hq.symm), hqh] at hph
  exact (Option.some.inj hph).symm

end

namespace ServerState

/-! ## Under a route table -/

@[simp] theorem route_routes (s : ServerState) (r : ResourceSettings) (table : RouteTable) :
    (s.route r table).1.routes = table := by
  rw [route]
  cases r.publicPatterns <;> rfl

@[simp] theorem route_options (s : ServerState) (r : ResourceSettings) (table : RouteTable) :
    (s.route r table).1.provider.options = r.pathOptions := by
  rw [route]
  cases r.publicPatterns with
  | some patterns => rfl
  | none => exact Provider.refresh_options _ table

@[simp] theorem route_matcher (s : ServerState) (r : ResourceSettings) (table : RouteTable) :
    (s.route r table).1.provider.matcher = s.provider.matcher := by
  rw [route]
  cases r.publicPatterns with
  | some patterns => rfl
  | none => exact Provider.refresh_matcher _ table

theorem route_of_publicPatterns (s : ServerState) (table : RouteTable) {patterns : List Text}
    (h : r.publicPatterns = some patterns) :
    (s.route r table).1.provider =
      (s.provider.setOptions r.pathOptions).configure (explicitHandlers table patterns) := by
  rw [route, h]

theorem route_of_no_publicPatterns (s : ServerState) (table : RouteTable) (h : r.publicPatterns = none) :
    (s.route r table).1.provider = (s.provider.setOptions r.pathOptions).refresh table := by
  rw [route, h]

theorem route_autodetect (s : ServerState) (table : RouteTable) (h : r.publicPatterns = none) :
    (s.route r table).1.provider.autodetect = s.provider.autodetect := by
  rw [route_of_no_publicPatterns s table h, Provider.refresh_autodetect, Provider.setOptions_autodetect]

/-- a provider that detects its patterns takes the files of the table that was made -/
theorem route_handlers_of_autodetect (h : r.publicPatterns = none) (hs : s.provider.autodetect = true)
    (ht : routeTable r = .ok table) : (s.route r table).1.provider.handlers.toList = table.resources := by
  obtain ⟨files, -, -, hresources, -⟩ := routeTable_mappings ht
  rw [route_of_no_publicPatterns s table h,
    Provider.refresh_of_autodetect ((Provider.setOptions_autodetect _ _).trans hs), hresources]
  exact congrArg Bindings.toList files.insertAll_toList

/-- one that was configured keeps its handlers -/
theorem route_handlers_of_configured (table : RouteTable) (h : r.publicPatterns = none)
    (hs : s.provider.autodetect = false) : (s.route r table).1.provider.handlers = s.provider.handlers := by
  rw [route_of_no_publicPatterns s table h,
    Provider.refresh_of_configured ((Provider.setOptions_autodetect _ _).trans hs), Provider.setOptions_handlers]

/-! ## Calls -/

theorem apply_eq_ok_iff :
    s.apply c = .ok (s', signals) ↔
      ∃ table, routeTable c.resources = .ok table ∧ s.route c.resources table = (s', signals) := by
  rw [apply]
  cases routeTable c.resources <;> simp [Except.map]

theorem apply_eq_error_iff {e : RoutingError} : s.apply c = .error e ↔ routeTable c.resources = .error e := by
  rw [apply]
  cases routeTable c.resources <;> simp [Except.map]

theorem step_of_ok (h : routeTable c.resources = .ok table) : s.step c = (s.route c.resources table).1 := by
  rw [step, apply, h]
  rfl

theorem step_of_error {e : RoutingError} (h : routeTable c.resources = .error e) : s.step c = s := by
  rw [step, apply, h]
  rfl

end ServerState

/-! ## A site, with files in `/srv/site` -/

/-- a file in the directory `data`, and a link `a` to it -/
def sampleTree : FileTree where
  nodes := [
    (["srv".toList], .directory),
    (["srv".toList, "site".toList], .directory),
    (["srv".toList, "site".toList, "data".toList], .directory),
    (["srv".toList, "site".toList, "data".toList, "x.txt".toList], .file "hello".toList),
    (["srv".toList, "site".toList, "a".toList], .link "data".toList)]
  workingDirectory := []

/-- settings that serve the site below `/r`, in the context `/app` -/
def sampleSettings : Settings where
  server := ⟨"localhost".toList, 80, "http://localhost".toList, "/app".toList, true, 60, 10, [['*']], 1000, 8, true⟩
  resources := { ResourceSettings.usual with
    mappings := [⟨"/r/**".toList, ["/none".toList, "/srv/site".toList], true⟩] }

/-- the files of the site -/
def sampleFiles : Bindings Resource.ResourceHandler :=
  ⟨[("/r/**".toList, .plain ["/none".toList, "/srv/site".toList])], by decide⟩

/-- the routes of the site -/
def sampleTable : RouteTable := ⟨[endpointTable, fileTable sampleFiles (by decide)]⟩

/-- the state of a server that starts with the site -/
def sampleState : ServerState :=
  ((ServerState.ofServer sampleSettings.server).route sampleSettings.resources sampleTable).1

theorem sampleState_applied :
    (ServerState.ofServer sampleSettings.server).apply sampleSettings = .ok (sampleState, []) := by
  refine ServerState.apply_eq_ok_iff.2 ⟨sampleTable, ?_, rfl⟩
  have hfiles : resourceMapping sampleSettings.resources = .ok (fileTable sampleFiles (by decide)) := rfl
  rw [routeTable, endpointMapping_eq, hfiles]
  exact congrArg Except.ok (ofMappings_pair (by decide))

end ResourceServer
