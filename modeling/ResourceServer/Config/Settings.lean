/-
The settings of a resource server.

Three settings of the server section have to be given, its host, port and base URL; everything else has a usual value. A
mapping names a pattern and the directories behind it. `Settings.decoder` reads settings from a TOML document.
-/
import ResourceServer.Toml.Decoder

namespace ResourceServer

open Toml

/-- the settings of the server itself -/
structure ServerSettings where
  host : Text
  port : Nat
  baseUrl : Text
  contextPath : Text
  tcpNodelay : Bool
  timeoutSecs : Nat
  maxBodySizeMb : Nat
  allowedOrigins : List Text
  maxConcurrentRequests : Nat
  streamingThresholdMb : Nat
  enableCompression : Bool
  deriving DecidableEq, Repr

/-- one mapping of a pattern to locations -/
structure MappingSettings where
  pattern : Text
  locations : List Text
  enabled : Bool
  deriving DecidableEq, Repr

/-- the settings of the resources; without public patterns the public URLs follow the mappings -/
structure ResourceSettings where
  configWatchDebounceMs : Nat
  urlDecode : Bool
  removeSemicolonContent : Bool
  alwaysUseFullPath : Bool
  createLocations : Bool
  publicPatterns : Option (List Text)
  mappings : List MappingSettings
  deriving DecidableEq, Repr

/-- all settings -/
structure Settings where
  server : ServerSettings
  resources : ResourceSettings
  deriving DecidableEq, Repr

/-- the mappings that take part in routing -/
def ResourceSettings.enabledMappings (r : ResourceSettings) : List MappingSettings := r.mappings.filter (·.enabled)

/-! ## Usual values -/

/-- the resource settings of a configuration that says nothing about resources -/
def ResourceSettings.usual : ResourceSettings := ⟨500, true, true, false, true, none, []⟩

/-! ## Reading -/

namespace Decoder

open Toml.Decoder

/-- a port number -/
def port : Toml.Decoder Nat := natural (Nat.pow 2 16) "u16".toList

/-- a number of seconds, milliseconds or megabytes -/
def amount : Toml.Decoder Nat := natural (Nat.pow 2 64) "u64".toList

/-- a number of things that are held in memory -/
def size : Toml.Decoder Nat := natural (Nat.pow 2 64) "usize".toList

end Decoder

open Toml.Decoder Fields in
/-- the fields of the server section -/
def ServerSettings.fields : Fields ServerSettings :=
  value ServerSettings.mk
    |>.apply (required "host".toList text)
    |>.apply (required "port".toList Decoder.port)
    |>.apply (required "base_url".toList text)
    |>.apply (optional "context_path".toList text [])
    |>.apply (optional "tcp_nodelay".toList flag true)
    |>.apply (optional "timeout_secs".toList Decoder.amount 60)
    |>.apply (optional "max_body_size_mb".toList Decoder.size 10)
    |>.apply (optional "allowed_origins".toList (list text) [['*']])
    |>.apply (optional "max_concurrent_requests".toList Decoder.size 1000)
    |>.apply (optional "streaming_threshold_mb".toList Decoder.amount 8)
    |>.apply (optional "enable_compression".toList flag true)

open Toml.Decoder Fields in
/-- the fields of a mapping -/
def MappingSettings.fields : Fields MappingSettings :=
  value MappingSettings.mk
    |>.apply (required "pattern".toList text)
    |>.apply (required "locations".toList (list text))
    |>.apply (optional "enabled".toList flag true)

/-- reads a mapping -/
def MappingSettings.decoder : Toml.Decoder MappingSettings := MappingSettings.fields.decode "ResourceMapping".toList

open Toml.Decoder Fields in
/-- the fields of the resources section -/
def ResourceSettings.fields : Fields ResourceSettings :=
  value ResourceSettings.mk
    |>.apply (optional "config_watch_debounce_ms".toList Decoder.amount 500)
    |>.apply (optional "url_decode".toList flag true)
    |>.apply (optional "remove_semicolon_content".toList flag true)
    |>.apply (optional "always_use_full_path".toList flag false)
    |>.apply (optional "create_locations".toList flag true)
    |>.apply (optional "public_patterns".toList (fun d => (list text d).map some) none)
    |>.apply (optional "mappings".toList (list MappingSettings.decoder) [])

/-- reads the server section -/
def ServerSettings.decoder : Toml.Decoder ServerSettings := ServerSettings.fields.decode "ServerSettings".toList

/-- reads the resources section -/
def ResourceSettings.decoder : Toml.Decoder ResourceSettings := ResourceSettings.fields.decode "ResourceSettings".toList

open Toml.Fields in
/-- the sections of a configuration -/
def Settings.fields : Fields Settings :=
  value Settings.mk
    |>.apply (required "server".toList ServerSettings.decoder)
    |>.apply (optional "resources".toList ResourceSettings.decoder .usual)

/-- reads all settings -/
def Settings.decoder : Toml.Decoder Settings := Settings.fields.decode "Config".toList

end ResourceServer
