/-
A server gives away no file outside of its locations.

- `fileAt?_eq_ok_iff`: what a look-up of a file needs to succeed.
- `Confined`: a file belongs to a mapping of the settings, in the way in which its locations allow it.
- `file?_confined`: whatever the request path and the file tree, a file that is found is confined.
-/
import ResourceServer.Proofs.Files.Canonical
import ResourceServer.Proofs.Resource.Location
import ResourceServer.Proofs.Server.State
import ResourceServer.Http.Endpoints

namespace ResourceServer

open Files Http Request Routing Resource

variable {tree : FileTree} {s s₀ : ServerState} {c : Settings} {signals : List Signal} {lookup uri file : Text}

namespace ServerState

theorem fileAt?_eq_ok_iff :
    s.fileAt? tree lookup = .ok file ↔
      ∃ hit handler, s.routes.lookup? .standard lookup = some hit ∧ hit.handler = .resource handler ∧
        pathFault? (Text.trimSlashes hit.within) = none ∧ handler.file? tree hit.within = some file := by
  rw [fileAt?]
  cases s.routes.lookup? .standard lookup with
  | none => simp
  | some hit =>
    obtain ⟨pattern, handler, within⟩ := hit
    cases handler with
    | endpoint name => simp [Handler.resource?]
    | resource h =>
      cases hfault : pathFault? (Text.trimSlashes within) with
      | some fault => simp [Handler.resource?, hfault]
      | none => cases hfile : h.file? tree within <;> simp [Handler.resource?, hfault, hfile]

/-- a hit on files belongs to one of the enabled mappings -/
theorem hit_of_routeTable {table : RouteTable} {hit : Hit} {handler : ResourceHandler}
    (ht : routeTable c.resources = .ok table) (hhit : table.lookup? .standard lookup = some hit)
    (hh : hit.handler = .resource handler) :
    ∃ m ∈ c.resources.enabledMappings, hit.pattern = patternKey m.pattern ∧ handler = .plain m.locations := by
  have hin := RouteTable.hit_mem_resources hhit (Handler.resource?_eq_some_iff.2 hh)
  exact (mem_resources_of_routeTable ht _ _).1 hin

end ServerState

/-- the file is one that the mapping serves for the hit: in the first location that contains a file for the path,
without a step up, and where no link leads out of the location -/
structure Confined (tree : FileTree) (m : MappingSettings) (hit : Hit) (file : Text) : Prop where
  pattern : hit.pattern = patternKey m.pattern
  handler : hit.handler = .resource (.plain m.locations)
  no_up : ['.', '.'] ∉ Text.piecesBy separates hit.within
  place : ∃ place, file = FilePath.text place ∧
    FirstContained tree (Text.trimSlashes hit.within) m.locations place ∧
    (tree.Direct tree.workingDirectory → tree.Direct place)

/-- **Confinement of files.** In a state that settings were put into, a file found for any request path is confined to
the locations of the enabled mapping that the lookup path hits. -/
theorem file?_confined (hs : s₀.apply c = .ok (s, signals)) (hf : s.file? tree uri = .ok file) :
    ∃ hit, s.routes.lookup? .standard (s.lookupPath uri) = some hit ∧
      ∃ m ∈ c.resources.enabledMappings, Confined tree m hit file := by
  obtain ⟨table, htable, hroute⟩ := ServerState.apply_eq_ok_iff.1 hs
  have hroutes : s.routes = table := by
    rw [← ServerState.route_routes s₀ c.resources table, hroute]
  obtain ⟨hit, handler, hhit, hh, hfault, hfile⟩ := ServerState.fileAt?_eq_ok_iff.1 hf
  obtain ⟨m, hm, hpattern, rfl⟩ := ServerState.hit_of_routeTable htable (hroutes ▸ hhit) hh
  rw [plain_file?] at hfile
  obtain ⟨place, hplace, htext⟩ := Option.map_eq_some_iff.1 hfile
  obtain ⟨-, hfirst⟩ := findFile?_eq_some_iff.1 hplace
  have hdirect : tree.Direct tree.workingDirectory → tree.Direct place := by
    obtain ⟨_, _, _, _, hcontained, _⟩ := hfirst
    exact fun hw => FileTree.canonical_direct hw hcontained.reached
  exact ⟨hit, hhit, m, hm, hpattern, hh, not_up_of_trimmed hfault, place, htext.symm, hfirst, hdirect⟩

/-- a request path with an escape, a parameter, a double slash and a link on the way -/
theorem file?_confined_sample :
    sampleState.file? sampleTree "/app//r/%61;v=1/x.txt".toList = .ok "/srv/site/data/x.txt".toList ∧
      ∃ hit, sampleState.routes.lookup? .standard (sampleState.lookupPath "/app//r/%61;v=1/x.txt".toList) = some hit ∧
        ∃ m ∈ sampleSettings.resources.enabledMappings, Confined sampleTree m hit "/srv/site/data/x.txt".toList := by
  have hf : sampleState.file? sampleTree "/app//r/%61;v=1/x.txt".toList = .ok "/srv/site/data/x.txt".toList := by
    decide +kernel
  exact ⟨hf, file?_confined sampleState_applied hf⟩

end ResourceServer
