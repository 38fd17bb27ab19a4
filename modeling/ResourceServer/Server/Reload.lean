/-
Reloading the configuration of a running server.

A reload reads the configuration file anew and puts its settings into force. It goes part by part over the files, the
server and what is told, and ends at the first part that fails, with all that was done up to there: `Reload.whole` is
the sequence, `Server.reload` its outcome. `Server.watchSignals` is what a watcher of the file tells about a reload that
it made, also about one that fails. `ServerOp` is an edit of the configuration file or a reload, and `runServer` a
history of them.
-/
import ResourceServer.Server.Start

namespace ResourceServer

open Files Routing

/-- why a reload fails -/
inductive ReloadFault where
  | missing (path : Text)
  | config (fault : ConfigFault)
  | routing (e : RoutingError)

/-- the fault in words -/
def ReloadFault.message : ReloadFault → String
  | .missing path => "Config file missing: " ++ String.ofList path
  | .config fault => "Config error: " ++ fault.message
  | .routing e => "Failed to apply mappings: Routing error: " ++ e.message

/-- warnings about settings that count only at the start -/
def restartWarnings (old new : ServerSettings) : List Signal :=
  (if old.host ≠ new.host ∨ old.port ≠ new.port then
    [.log ⟨.warning, "Listen address changed, restart to apply".toList⟩] else [])
  ++ (if old.contextPath ≠ new.contextPath then
    [.log ⟨.warning, "Context path changed, restart to apply".toList⟩] else [])
  ++ (if old.streamingThresholdMb ≠ new.streamingThresholdMb then
    [.log ⟨.warning, "Streaming threshold changed, restart to apply".toList⟩] else [])

/-- the event of mappings after a reload: configured ones where the settings have public patterns -/
def reloadEvent (c : Settings) (patterns : List Text) : Event :=
  if c.resources.publicPatterns.isSome then .mappingsConfigured patterns else .mappingsRefreshed patterns

/-! ## Parts of a reload -/

/-- a reload under way: the file tree, the server, and what was told so far -/
structure Reloading where
  tree : FileTree
  server : Server
  signals : List Signal

/-- a part of a reload; where it fails, what was done before stays done -/
abbrev Reload (α : Type) := EStateM ReloadFault Reloading α

namespace Reload

/-- tells something -/
def tell (signals : List Signal) : Reload Unit := modify fun w => { w with signals := w.signals ++ signals }

/-- asks for the configuration file; one that is missing is not made -/
def requireFile : Reload Unit := do
  let w ← get
  if !w.tree.present w.server.configPath then throw (.missing w.server.configPath)

/-- reads the settings of the file, which may be completed on the way -/
def readSettings : Reload Settings := do
  let w ← get
  let loaded := Settings.load w.tree w.server.configPath
  set { w with tree := loaded.tree }
  tell loaded.signals
  match loaded.outcome with
  | .ok c => return c
  | .error fault => throw (.config fault)

/-- warns of settings that take no effect, and prepares the locations -/
def prepare (c : Settings) : Reload Unit := do
  let w ← get
  let (tree, prepared) := prepareLocations w.tree c.resources
  set { w with tree }
  tell (restartWarnings w.server.settings.server c.server ++ prepared)

/-- puts settings into force in the state -/
def applySettings (c : Settings) : Reload Unit := do
  let w ← get
  match w.server.state.apply c with
  | .ok (state, applied) =>
    set { w with server := { w.server with state } }
    tell applied
  | .error e => throw (.routing e)

/-- keeps settings as those in force, and tells about it -/
def keepSettings (c : Settings) : Reload Unit := do
  modify fun w => { w with server := { w.server with settings := c } }
  let w ← get
  tell [.event (reloadEvent c w.server.state.patterns), .event .configReloaded,
    .log ⟨.info, "Configuration reloaded from ".toList ++ w.server.configPath⟩]

/-- a whole reload -/
def whole : Reload Unit := do
  requireFile
  let c ← readSettings
  prepare c
  applySettings c
  keepSettings c

/-- what a reload of a server leaves, and how it ends -/
def finish (tree : FileTree) (s : Server) : Reloading × Except ReloadFault Unit :=
  match whole.run ⟨tree, s, []⟩ with
  | .ok _ w => (w, .ok ())
  | .error fault w => (w, .error fault)

end Reload

namespace Server

/-- reloads the configuration file -/
def reload (s : Server) (tree : FileTree) : Outcome ReloadFault Server :=
  let (w, result) := Reload.finish tree s
  ⟨w.tree, w.signals, result.map fun _ => w.server⟩

/-- the server after a reload, the same one if it failed -/
def afterReload (s : Server) (o : Outcome ReloadFault Server) : Server :=
  match o.result with
  | .ok s => s
  | .error _ => s

/-- what a watcher of the configuration file tells about a reload -/
def watchSignals (o : Outcome ReloadFault Server) : List Signal :=
  match o.result with
  | .ok _ => o.signals
  | .error (.missing path) =>
    o.signals ++ [.log ⟨.warning, "Config file ".toList ++ path ++ " deleted, ignoring event".toList⟩]
  | .error fault => o.signals ++ [.event (.configRejected fault.message.toList)]

end Server

/-! ## Histories -/

/-- an edit of the configuration file, its removal, or a reload -/
inductive ServerOp where
  | write (content : Text)
  | remove
  | reload

/-- one step of a server and its file tree; a write that fails changes nothing -/
def serverStep (world : FileTree × Server) : ServerOp → FileTree × Server
  | .write content =>
    match world.1.write world.2.configPath content with
    | .ok tree => (tree, world.2)
    | .error _ => world
  | .remove => (world.1.remove world.2.configPath, world.2)
  | .reload =>
    let (w, _) := Reload.finish world.1 world.2
    (w.tree, w.server)

/-- a history of edits and reloads -/
def runServer (world : FileTree × Server) (ops : List ServerOp) : FileTree × Server := ops.foldl serverStep world

end ResourceServer
