/-
The program: starts a server in the working directory and answers requests from standard input.

The environment may name the configuration file. The file tree that the server starts from holds this file and the
locations in it, without links. What the start makes is written back. Each line of the input is a method and a target,
and is answered by a status, headers, an empty line and a body; the server ends with the input.
-/
import ResourceServer.Http.Service
import ResourceServer.Server.Listen
import ResourceServer.Server.Start

namespace ResourceServer.Console

open Files

/-- puts the directories that a place lies in into a tree -/
def withParents (tree : FileTree) (place : FilePath) : FileTree :=
  ((List.range place.length).map place.take).foldl (fun tree p =>
    if (tree.node? p).isSome then tree else tree.put p .directory) tree

/-- puts the entries of a directory into a tree -/
partial def gather (tree : FileTree) (place : FilePath) (entries : List IO.FS.DirEntry) : IO FileTree := do
  match entries with
  | [] => return tree
  | entry :: more =>
    let here := place ++ [entry.fileName.toList]
    let kind := (← entry.path.symlinkMetadata).type
    let tree ←
      if kind == .dir then gather (tree.put here .directory) here (← entry.path.readDir).toList
      else if kind == .file then
        let bytes ← IO.FS.readBinFile entry.path
        pure (tree.put here (.file (Text.decodeLossy (bytes.toList.map (·.toNat)))))
      else pure tree
    gather tree place more

/-- puts the directory at a path into a tree, if there is one -/
def gatherLocation (tree : FileTree) (path : Text) : IO FileTree := do
  let place := Text.segments (tree.absolute path)
  try
    let target ← IO.FS.realPath (String.ofList path)
    let entries ← target.readDir
    gather ((withParents tree place).put place .directory) place entries.toList
  catch _ => return tree

/-- the file tree with the configuration file and its locations -/
def gatherTree (configPath : Text) : IO FileTree := do
  let here := Text.segments (← IO.currentDir).toString.toList
  let tree := (withParents ⟨[], here⟩ here).put here .directory
  let place := Text.segments (tree.absolute configPath)
  let tree ←
    try
      let content ← IO.FS.readFile (String.ofList configPath)
      pure ((withParents tree place).put place (.file content.toList))
    catch _ => pure (withParents tree place)
  match (Settings.load tree configPath).outcome with
  | .error _ => return tree
  | .ok settings => settings.resources.places.foldlM (fun tree (_, location) => gatherLocation tree location) tree

/-- writes the configuration file and makes the locations that a start made -/
def writeBack (old new : FileTree) (configPath : Text) (locations : List Text) : IO Unit := do
  match new.read configPath with
  | .ok content =>
    if (old.read configPath).toOption != some content then
      IO.FS.writeFile (String.ofList configPath) (String.ofList content)
  | .error _ => pure ()
  for location in locations do
    if new.isDirectory location && !old.isDirectory location then IO.FS.createDirAll (String.ofList location)

/-- shows signals: what is printed on standard output, what is logged on the error output -/
def tell (signals : List Signal) : IO Unit := do
  IO.print (String.ofList (printed true signals))
  for entry in logged signals do
    let label := match entry.severity with
      | .info => "INFO "
      | .warning => "WARN "
      | .error => "ERROR "
    IO.eprintln (label ++ String.ofList entry.text)

/-- writes a response -/
def respond (response : Http.Response) : IO Unit := do
  IO.println (toString response.status)
  for (name, value) in response.headers do
    IO.println (String.ofList name ++ ": " ++ String.ofList value)
  IO.println ("\n" ++ String.ofList response.body.text)

/-- answers the requests of the input up to its end -/
partial def serveInput (service : Http.Service) (state : ServerState) (tree : FileTree) : IO Unit := do
  let line ← (← IO.getStdin).getLine
  if line.isEmpty then return
  let words := (Text.piecesBy (fun c => c == ' ' || c == '\n') line.toList).filter fun word => !word.isEmpty
  match words with
  | [method, target] => respond (service.answer state tree ⟨method, target, []⟩)
  | _ => respond (.empty 400)
  serveInput service state tree

/-- starts a server and answers the requests of the input -/
def run : IO UInt32 := do
  tell [.event .starting]
  let configPath := ((← IO.getEnv "RESMAP_CONFIG").getD "config.toml").toList
  let tree ← gatherTree configPath
  let started := Server.start tree configPath
  tell started.signals
  match started.result with
  | .error fault =>
    writeBack tree started.tree configPath []
    IO.eprintln ("Error: " ++ fault.message)
    return 1
  | .ok server =>
    writeBack tree started.tree configPath (server.settings.resources.places.map (·.2))
    tell [.event (.ready server.settings.server.address server.settings.server.baseUrl)]
    serveInput (.ofServer server.settings.server) server.state started.tree
    tell [.event .shutdown]
    return 0

end ResourceServer.Console

/-- the program -/
def main : IO UInt32 := ResourceServer.Console.run
