/-
Adding the settings that a configuration file does not have yet.

The server and the resources section get the fields they lack, with their usual values, behind the fields they have; a
section that is missing is added. Each mapping under a header of its own gets its `enabled` field. Nothing that is there
changes. The names of what was added are kept in order.
-/
import ResourceServer.Config.Rules
import ResourceServer.Toml.Document

namespace ResourceServer

open Toml

/-- the fields of the server section with their usual values, in the order in which they are added -/
def serverDefaults : List (Text × Value) := [
  ("host".toList, .ofString "0.0.0.0".toList),
  ("port".toList, .ofNat 8080),
  ("base_url".toList, .ofString "http://localhost:8080".toList),
  ("context_path".toList, .ofString []),
  ("tcp_nodelay".toList, .ofBool true),
  ("timeout_secs".toList, .ofNat 60),
  ("max_body_size_mb".toList, .ofNat 10),
  ("max_concurrent_requests".toList, .ofNat 1000),
  ("streaming_threshold_mb".toList, .ofNat 8),
  ("enable_compression".toList, .ofBool true),
  ("allowed_origins".toList, .ofList [.ofString ['*']])]

/-- the fields of the resources section with their usual values, in the order in which they are added -/
def resourceDefaults : List (Text × Value) := [
  ("config_watch_debounce_ms".toList, .ofNat 500),
  ("url_decode".toList, .ofBool true),
  ("remove_semicolon_content".toList, .ofBool true),
  ("always_use_full_path".toList, .ofBool false),
  ("create_locations".toList, .ofBool true)]

/-- the field of a mapping that is added -/
def mappingDefault : Text × Value := ("enabled".toList, .ofBool true)

/-- those of some fields that a table lacks -/
def missingFields (fields : List (Text × Value)) (t : Table) : List (Text × Value) := fields.filter fun f => !t.has f.1

/-- the table with the fields it lacks behind its own -/
def withFields (fields : List (Text × Value)) (t : Table) : Table :=
  { t with entries := t.entries ++ (missingFields fields t).map fun f => (Key.bare f.1, Item.value f.2) }

/-- the root table with a section completed, and the names of what was added -/
def completeSection (name : Text) (fields : List (Text × Value)) (root : Table) :
    Except RuleFault (Table × List Text) :=
  match root.get? name with
  | none =>
    .ok (root.append (Key.bare name) (.table (withFields fields (TableOf.fresh false))), name :: fields.map (·.1))
  | some (.table t) => .ok (root.replace name (.table (withFields fields t)), (missingFields fields t).map (·.1))
  | some _ => .error (.notATable name)

/-- the name under which the added field of a mapping is reported -/
def mappingFieldName (index : Nat) : Text := ("resources.mappings[" ++ toString index ++ "].enabled").toList

/-- the names of the fields that the mappings from an index on lack -/
def missingMappingFields (index : Nat) : List Table → List Text
  | [] => []
  | t :: more =>
    (if t.has mappingDefault.1 then [] else [mappingFieldName index]) ++ missingMappingFields (index + 1) more

/-- the root table with its mappings completed, and the names of what was added; mappings that are not under headers of
their own stay as they are -/
def completeMappings (root : Table) : Table × List Text :=
  match root.get? "resources".toList with
  | some (.table t) =>
    match t.get? "mappings".toList with
    | some (.tables ts) =>
      (root.replace "resources".toList
        (.table (t.replace "mappings".toList (.tables (ts.map (withFields [mappingDefault]))))),
        missingMappingFields 0 ts)
    | _ => (root, [])
  | _ => (root, [])

/-- the document with all settings, and the names of what was added -/
def Toml.Document.complete (d : Document) : Except RuleFault (Document × List Text) :=
  match completeSection "server".toList serverDefaults d.root with
  | .error fault => .error fault
  | .ok (root, serverNames) =>
    match completeSection "resources".toList resourceDefaults root with
    | .error fault => .error fault
    | .ok (root, resourceNames) =>
      let (root, mappingNames) := completeMappings root
      .ok ({ d with root }, serverNames ++ resourceNames ++ mappingNames)

end ResourceServer
