/-
Starting a server from its configuration file.

The settings are loaded, the locations prepared, and the state is made and told about. A failure of any of these ends
the start; what was made on the way stays. A location is made where it is missing, or, if the settings say so, only
reported; one that cannot be made is reported and does not stop the others.
-/
import ResourceServer.Config.Load
import ResourceServer.Server.State

namespace ResourceServer

open Files Routing

/-! ## Locations -/

/-- makes the directory of a location unless something is there; gives its path and whether it was made -/
def ensureLocation (tree : FileTree) (location : Text) : FileTree × Except Fault (Text × Bool) :=
  let path := tree.absolute location
  if tree.present path then (tree, .ok (path, false))
  else
    match tree.makeDirectories path with
    | (tree, none) => (tree, .ok (path, true))
    | (tree, some fault) => (tree, .error fault)

/-- prepares one location of a mapping -/
def prepareLocation (create : Bool) (tree : FileTree) (pattern location : Text) : FileTree × List Signal :=
  if create then
    match ensureLocation tree location with
    | (tree, .ok (path, true)) => (tree, [.event (.locationCreated path)])
    | (tree, .ok (_, false)) => (tree, [])
    | (tree, .error fault) =>
      (tree, [.event (.failed ("Failed to create location '".toList ++ location ++ ['\'']) fault.message.toList)])
  else (tree, if tree.isDirectory (tree.absolute location) then [] else [.event (.locationMissing pattern location)])

/-- the patterns and locations of the enabled mappings, in order -/
def ResourceSettings.places (r : ResourceSettings) : List (Text × Text) :=
  r.enabledMappings.flatMap fun m => m.locations.map (m.pattern, ·)

/-- prepares the locations of all enabled mappings -/
def prepareLocations (tree : FileTree) (r : ResourceSettings) : FileTree × List Signal :=
  r.places.foldl (fun (tree, signals) (pattern, location) =>
    let (tree, more) := prepareLocation r.createLocations tree pattern location
    (tree, signals ++ more)) (tree, [])

/-! ## The start -/

/-- a running server: the path of its configuration file, the settings in force, and its state -/
structure Server where
  configPath : Text
  settings : Settings
  state : ServerState

/-- why a server does not start -/
inductive StartFault where
  | config (fault : ConfigFault)
  | routing (e : RoutingError)

/-- the fault in words -/
def StartFault.message : StartFault → String
  | .config fault => fault.message
  | .routing e => "Routing error: " ++ e.message

/-- what was done on the way to a result: the file tree and the signals -/
structure Outcome (ε α : Type) where
  tree : FileTree
  signals : List Signal
  result : Except ε α

/-- the event of settings that were added to the file -/
def Loaded.signals (l : Loaded) : List Signal :=
  if l.added.isEmpty then [] else [.event (.configMigrated l.added)]

/-- loads the settings at the start, with what there is to tell about it -/
def loadSettings (tree : FileTree) (path : Text) : Outcome ConfigFault Settings :=
  let loaded := Settings.load tree path
  let loading : List Signal := .event (.configLoading (tree.absolute path)) :: loaded.signals
  match loaded.outcome with
  | .error fault => ⟨loaded.tree, loading, .error fault⟩
  | .ok c =>
    ⟨loaded.tree,
      loading ++ (if tree.present path then [] else [.event (.configCreated (tree.absolute path))])
        ++ [.event (.configLoaded c.resources.enabledMappings.length)],
      .ok c⟩

/-- the state of a server that starts with some settings -/
def startState (tree : FileTree) (c : Settings) : Outcome RoutingError ServerState :=
  let (tree, prepared) := prepareLocations tree c.resources
  match (ServerState.ofServer c.server).apply c with
  | .error e => ⟨tree, prepared, .error e⟩
  | .ok (state, applied) => ⟨tree, prepared ++ applied ++ [.event state.mappingsEvent], .ok state⟩

/-- the entry about the prefix of all paths -/
def contextEntry (c : Settings) : List Signal :=
  if c.server.contextPath.isEmpty then []
  else [.log ⟨.info, "Serving under context path ".toList ++ c.server.contextPath⟩]

/-- starts a server -/
def Server.start (tree : FileTree) (path : Text) : Outcome StartFault Server :=
  let loaded := loadSettings tree path
  match loaded.result with
  | .error fault => ⟨loaded.tree, loaded.signals, .error (.config fault)⟩
  | .ok c =>
    let started := startState loaded.tree c
    match started.result with
    | .error e => ⟨started.tree, loaded.signals ++ started.signals, .error (.routing e)⟩
    | .ok state =>
      ⟨started.tree, loaded.signals ++ started.signals ++ contextEntry c, .ok ⟨path, c, state⟩⟩

end ResourceServer
