/-
What a running server keeps: its route table and its provider of public URLs.

The route table of some settings has the server's own endpoints first, then the enabled mappings.

`ServerState.apply` puts settings into force. A route table that cannot be made leaves the state as it was. With
public patterns the provider is configured with their handlers and stays so; without, it detects the patterns of the
route table unless it was configured before.
-/
import ResourceServer.Config.Settings
import ResourceServer.PublicUrl.Lookup
import ResourceServer.Server.Event

namespace ResourceServer

open Routing Resource PublicUrl Request

/-! ## Routes -/

/-- an endpoint of the server: the path it has and the name of its handler -/
structure Endpoint where
  path : Text
  name : Text
  deriving DecidableEq, Repr

/-- gives the public URL of a resource -/
def Endpoint.resourceUrl : Endpoint := ⟨"/resource-url".toList, "resource_url".toList⟩

/-- lists the patterns with public URLs -/
def Endpoint.mappings : Endpoint := ⟨"/mappings".toList, "mappings".toList⟩

/-- the mapping of the server's own endpoints -/
def endpointMapping : Except RoutingError Mapping :=
  [Endpoint.resourceUrl, Endpoint.mappings].foldlM (fun m e => m.register e.path (.endpoint e.name))
    (Mapping.empty "api".toList 0)

/-- the mapping of the enabled mappings of some settings -/
def resourceMapping (r : ResourceSettings) : Except RoutingError Mapping :=
  r.enabledMappings.foldlM (fun m s => m.register s.pattern (.resource (.plain s.locations)))
    (Mapping.empty "resources".toList 1)

/-- the route table of some settings -/
def routeTable (r : ResourceSettings) : Except RoutingError RouteTable :=
  match endpointMapping with
  | .error e => .error e
  | .ok endpoints =>
    match resourceMapping r with
    | .error e => .error e
    | .ok resources => .ok (.ofMappings [endpoints, resources])

/-! ## The state -/

/-- the routes, the provider, the prefix of all paths, and the size in bytes above which files are streamed -/
structure ServerState where
  routes : RouteTable
  provider : Provider
  contextPath : Text
  streamingThreshold : Nat

/-- how request paths are read under some settings -/
def ResourceSettings.pathOptions (r : ResourceSettings) : PathOptions :=
  ⟨r.alwaysUseFullPath, r.urlDecode, r.removeSemicolonContent⟩

/-- the number of bytes in some megabytes, as far as a counter of 64 bits reaches -/
def megabytes (n : Nat) : Nat := min (n * (1024 * 1024)) (Nat.pow 2 64 - 1)

/-- the files behind a public pattern in a route table: the first mapping that has the pattern decides -/
def publicHandler? (table : RouteTable) (pattern : Text) : Option ResourceHandler :=
  (table.mappings.findSome? fun m => m.entries.get? (Text.rootedForm pattern)).bind Handler.resource?

/-- the handlers of those public patterns that have one -/
def explicitHandlers (table : RouteTable) (patterns : List Text) : List (Text × ResourceHandler) :=
  patterns.filterMap fun p => (publicHandler? table p).map (Text.rootedForm p, ·)

/-- a warning for each public pattern without files -/
def explicitWarnings (table : RouteTable) (patterns : List Text) : List Signal :=
  (patterns.filter fun p => (publicHandler? table p).isNone).map fun p =>
    .log ⟨.warning, "Public pattern '".toList ++ p ++ "' is not a resource mapping".toList⟩

namespace ServerState

/-- no routes yet -/
def initial (contextPath : Text) (streamingThresholdMb : Nat) : ServerState :=
  ⟨.empty, .initial, contextPath, megabytes streamingThresholdMb⟩

/-- the state before the given settings are applied for the first time -/
def ofServer (s : ServerSettings) : ServerState := .initial s.contextPath s.streamingThresholdMb

/-- the patterns with public URLs, in order -/
def patterns (s : ServerState) : List Text := s.provider.handlers.keys

/-- the warning that configured patterns stay -/
def staysConfigured : LogEntry :=
  ⟨.warning, "Public URL mappings were configured explicitly; restart to detect them again".toList⟩

/-- the state under a route table for some settings -/
def route (s : ServerState) (r : ResourceSettings) (table : RouteTable) : ServerState × List Signal :=
  let provider := s.provider.setOptions r.pathOptions
  match r.publicPatterns with
  | some patterns =>
    ({ s with routes := table, provider := provider.configure (explicitHandlers table patterns) },
      explicitWarnings table patterns)
  | none =>
    ({ s with routes := table, provider := provider.refresh table },
      if provider.autodetect then [] else [.log staysConfigured])

/-- the state with settings in force -/
def apply (s : ServerState) (c : Settings) : Except RoutingError (ServerState × List Signal) :=
  (routeTable c.resources).map (s.route c.resources)

/-- one step of a history of settings: those that fail change nothing -/
def step (s : ServerState) (c : Settings) : ServerState :=
  match s.apply c with
  | .ok (s, _) => s
  | .error _ => s

/-- a history of settings -/
def run (s : ServerState) (history : List Settings) : ServerState := history.foldl step s

/-- the event that tells which patterns have public URLs -/
def mappingsEvent (s : ServerState) : Event :=
  if s.provider.autodetect then .mappingsRefreshed s.patterns else .mappingsConfigured s.patterns

end ServerState

end ResourceServer
