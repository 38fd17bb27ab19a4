/-
The rules that settings keep beyond the types of their values.

A context path is empty or rooted without a slash at its end. Each enabled mapping has a pattern of its own and at
least one location, and each public pattern is the pattern of an enabled mapping. `Settings.fault?` gives the first
rule that is broken.
-/
import ResourceServer.Config.Settings
import ResourceServer.Text

namespace ResourceServer

/-- a rule that settings break -/
inductive RuleFault where
  | contextPath (path : Text)
  | emptyPattern
  | noLocations (pattern : Text)
  | definedTwice (pattern : Text)
  | unknownPublicPattern (pattern : Text)
  | notATable (name : Text)
  deriving DecidableEq, Repr

/-- the broken rule in words -/
def RuleFault.message : RuleFault → String
  | .contextPath path =>
    "server.context_path '" ++ String.ofList path ++ "' must start with '/' and must not end with '/'"
  | .emptyPattern => "resource mapping with empty pattern"
  | .noLocations pattern => "resource mapping '" ++ String.ofList pattern ++ "' has no locations"
  | .definedTwice pattern => "resource mapping '" ++ String.ofList pattern ++ "' is defined twice"
  | .unknownPublicPattern pattern =>
    "public pattern '" ++ String.ofList pattern ++ "' does not name an enabled resource mapping"
  | .notATable name => "[" ++ String.ofList name ++ "] must be a table"

/-- the fault of a context path -/
def contextPathFault? (path : Text) : Option RuleFault :=
  if path.isEmpty || (Text.rooted path && !Text.closed path) then none else some (.contextPath path)

/-- the fault of a mapping behind mappings with the given patterns -/
def MappingSettings.fault? (seen : List Text) (m : MappingSettings) : Option RuleFault :=
  if (Text.trim m.pattern).isEmpty then some .emptyPattern
  else if m.locations.isEmpty then some (.noLocations m.pattern)
  else if seen.contains m.pattern then some (.definedTwice m.pattern)
  else none

/-- the first fault of the mappings, each behind those before it -/
def mappingsFault? (seen : List Text) : List MappingSettings → Option RuleFault
  | [] => none
  | m :: more =>
    match m.fault? seen with
    | some fault => some fault
    | none => mappingsFault? (m.pattern :: seen) more

/-- the first public pattern that no enabled mapping has -/
def publicPatternFault? (r : ResourceSettings) : Option RuleFault :=
  ((r.publicPatterns.getD []).find? fun p => !(r.enabledMappings.map (·.pattern)).contains p).map .unknownPublicPattern

/-- the first rule that settings break -/
def Settings.fault? (s : Settings) : Option RuleFault :=
  match contextPathFault? s.server.contextPath with
  | some fault => some fault
  | none =>
    match mappingsFault? [] s.resources.enabledMappings with
    | some fault => some fault
    | none => publicPatternFault? s.resources

end ResourceServer
