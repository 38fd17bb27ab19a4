/-
Reading settings from a text and from a file.

`Settings.parse` reads and checks a text. `Settings.load` reads a file: one that is missing is written from the template
first, settings that the file lacks are added to it, and what it then holds is parsed. The file is written only if
something was added.
-/
import ResourceServer.Config.Migration
import ResourceServer.Files.Tree
import ResourceServer.Toml.Parser
import ResourceServer.Toml.Printer

namespace ResourceServer

open Toml Files

/-! ## Texts -/

/-- why there are no settings -/
inductive ConfigFault where
  /-- the file cannot be read or written -/
  | file (fault : Fault)
  /-- the text is not TOML -/
  | malformed
  /-- a setting is missing or of the wrong kind -/
  | undecodable (fault : DecodeFault)
  /-- the text cannot be completed because it is not TOML -/
  | uneditable
  /-- a rule is broken -/
  | invalid (fault : RuleFault)

/-- the fault in words -/
def ConfigFault.message : ConfigFault → String
  | .file fault => "I/O error: " ++ fault.message
  | .malformed => "TOML parsing error"
  | .undecodable fault => "TOML parsing error: " ++ fault.message
  | .uneditable => "TOML edit error"
  | .invalid fault => "Invalid configuration: " ++ fault.message

/-- the settings that a document gives -/
def Settings.ofDocument (d : Document) : Except ConfigFault Settings :=
  match Settings.decoder d.data with
  | .error fault => .error (.undecodable fault)
  | .ok settings =>
    match settings.fault? with
    | some fault => .error (.invalid fault)
    | none => .ok settings

/-- the settings that a text gives -/
def Settings.parse (t : Text) : Except ConfigFault Settings :=
  match Document.parse? t with
  | none => .error .malformed
  | some d => Settings.ofDocument d

/-! ## Files -/

/-- the lines of the first configuration file -/
def templateLines : List String := [
  "# ===============================================================================",
  "# resmap Configuration",
  "# ===============================================================================",
  "",
  "[server]",
  "# Network",
  "host = \"0.0.0.0\"                     # Server bind address (0.0.0.0 = all interfaces)",
  "port = 8080                          # Server port",
  "base_url = \"http://localhost:8080\"   # Public base URL",
  "context_path = \"\"                    # Mount prefix for every route (\"\" = root, e.g. \"/app\")",
  "",
  "# Performance",
  "tcp_nodelay = true                   # Disable Nagle's algorithm (lower latency)",
  "timeout_secs = 60                    # Request timeout in seconds",
  "max_concurrent_requests = 1000       # Max simultaneous connections",
  "max_body_size_mb = 10                # Max request body size in MB",
  "streaming_threshold_mb = 8           # Files >8MB streamed, smaller files read into memory",
  "enable_compression = true            # HTTP compression (gzip/brotli/deflate)",
  "",
  "# CORS",
  "allowed_origins = [\"*\"]              # \"*\" = all origins | [\"https://example.com\"] for production",
  "",
  "[resources]",
  "config_watch_debounce_ms = 500       # Config file change debounce (milliseconds)",
  "url_decode = true                    # Percent-decode request paths before matching",
  "remove_semicolon_content = true      # Strip \";name=value\" path parameters before matching",
  "always_use_full_path = false         # Match on the full path within the application",
  "create_locations = true              # Create missing location directories on startup",
  "",
  "# Explicit public URL mappings. When set, the patterns listed here are the only",
  "# ones used for public URL lookup, and they are no longer refreshed from the",
  "# mappings below when the configuration reloads.",
  "#public_patterns = [\"/resources/**\"]",
  "",
  "# ===============================================================================",
  "# RESOURCE MAPPINGS",
  "# ===============================================================================",
  "# Requests matching `pattern` are served from the first location containing the",
  "# path matched by the pattern's wildcard part.",
  "",
  "[[resources.mappings]]",
  "pattern = \"/resources/**\"            # Ant-style pattern: ? * ** \x7bname\x7d",
  "locations = [\"public\"]               # Directories searched in order",
  "enabled = true"]

/-- the text of the first configuration file -/
def configTemplate : Text := templateLines.flatMap fun line => line.toList ++ ['\n']

/-- the file tree after loading, the names of the settings that were added to the file, and the settings -/
structure Loaded where
  tree : FileTree
  added : List Text
  outcome : Except ConfigFault Settings

/-- writes the template where the path leads nowhere -/
def provideConfig (tree : FileTree) (path : Text) : Except Fault FileTree :=
  if tree.present path then .ok tree else tree.write path configTemplate

/-- adds the settings that a file lacks; the file is left alone where nothing is added -/
def completeFile (tree : FileTree) (path : Text) : Except ConfigFault (FileTree × List Text) :=
  match tree.read path with
  | .error fault => .error (.file fault)
  | .ok content =>
    match Document.parse? content with
    | none => .error .uneditable
    | some d =>
      match d.complete with
      | .error fault => .error (.invalid fault)
      | .ok (complete, added) =>
        if added.isEmpty then .ok (tree, [])
        else
          match tree.write path complete.text with
          | .error fault => .error (.file fault)
          | .ok tree => .ok (tree, added)

/-- the settings of a file -/
def Settings.load (tree : FileTree) (path : Text) : Loaded :=
  match provideConfig tree path with
  | .error fault => ⟨tree, [], .error (.file fault)⟩
  | .ok tree =>
    match completeFile tree path with
    | .error fault => ⟨tree, [], .error fault⟩
    | .ok (tree, added) =>
      match tree.read path with
      | .error fault => ⟨tree, added, .error (.file fault)⟩
      | .ok content => ⟨tree, added, Settings.parse content⟩

end ResourceServer
