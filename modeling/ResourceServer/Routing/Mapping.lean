/-
Mappings of path patterns to handlers, and the table of mappings.

A mapping keeps its patterns in order, each with one handler. `register` trims a pattern and roots it, and refuses an
empty one and one that is there already. That patterns are kept in this form is part of the type, so a mapping is what
registrations make. `lookup?` prefers the entry whose pattern is the path itself, and otherwise takes the most specific
of the patterns that match. The table asks mappings by order, lowest first, and those of equal order as they came.
-/
import ResourceServer.Glob.Specificity
import ResourceServer.Resource.Location
import ResourceServer.Routing.Bindings

namespace ResourceServer.Routing

open Resource (ResourceHandler)
open Glob (PathMatcher)

/-! ## Handlers and mappings -/

/-- what a pattern leads to -/
inductive Handler where
  /-- files of some locations -/
  | resource (h : ResourceHandler)
  /-- anything else, by name -/
  | endpoint (name : Text)

/-- the handler of files, if it is one -/
def Handler.resource? : Handler → Option ResourceHandler
  | .resource h => some h
  | .endpoint _ => none

/-- the form in which a pattern is kept: without white space at its ends, rooted -/
def patternKey (pattern : Text) : Text := Text.rootedForm (Text.trim pattern)

theorem rooted_patternKey (pattern : Text) : Text.rooted (patternKey pattern) = true := Text.rooted_rootedForm _

theorem rooted_of_kept {k : Text} (h : patternKey k = k) : Text.rooted k = true := h ▸ rooted_patternKey k

/-- what is kept is kept as it is -/
theorem patternKey_patternKey (pattern : Text) : patternKey (patternKey pattern) = patternKey pattern := by
  calc patternKey (patternKey pattern) = Text.rootedForm (Text.trim (patternKey pattern)) := rfl
    _ = Text.rootedForm (patternKey pattern) := by
      rw [patternKey, Text.trim_of_trimmed (Text.trimmed_trim pattern).rootedForm]
    _ = patternKey pattern := Text.rootedForm_of_rooted (rooted_patternKey pattern)

/-- named bindings of patterns, in the form in which they are kept, to handlers; mappings of lower order are asked first
-/
@[ext] structure Mapping where
  name : Text
  order : Int
  entries : Bindings Handler
  kept : ∀ k ∈ entries.keys, patternKey k = k

/-- a mapping without entries -/
def Mapping.empty (name : Text) (order : Int) : Mapping := ⟨name, order, .empty, nofun⟩

/-- why a pattern is not registered -/
inductive RoutingError where
  | duplicatePattern (pattern mapping : Text)
  | invalidPattern (reason : Text)
  deriving DecidableEq, Repr

/-- the error in words -/
def RoutingError.message : RoutingError → String
  | .duplicatePattern pattern mapping =>
    "Pattern '" ++ String.ofList pattern ++ "' is already mapped in '" ++ String.ofList mapping ++ "'"
  | .invalidPattern reason => "Invalid pattern: " ++ String.ofList reason

/-- the reason given for an empty pattern in a mapping -/
def emptyPatternReason (mapping : Text) : Text := "empty pattern in mapping '".toList ++ mapping ++ "'".toList

namespace Mapping

/-- the mapping with a pattern bound -/
def bind (m : Mapping) (pattern : Text) (handler : Handler) : Mapping where
  name := m.name
  order := m.order
  entries := m.entries.insert (patternKey pattern) handler
  kept k hk := by
    obtain ⟨h, hin⟩ := Bindings.mem_keys_iff.1 hk
    rcases Bindings.mem_insert hin with he | hin
    · cases he
      exact patternKey_patternKey pattern
    · exact m.kept k (Bindings.mem_keys_of_mem hin)

/-- the mapping with one more pattern -/
def register (m : Mapping) (pattern : Text) (handler : Handler) : Except RoutingError Mapping :=
  if (Text.trim pattern).isEmpty then .error (.invalidPattern (emptyPatternReason m.name))
  else if (m.entries.get? (patternKey pattern)).isSome then .error (.duplicatePattern (patternKey pattern) m.name)
  else .ok (m.bind pattern handler)

/-- the patterns of the mapping -/
def patterns (m : Mapping) : List Text := m.entries.keys

/-- the patterns with files -/
def files (m : Mapping) : Bindings ResourceHandler := m.entries.filterMapValues Handler.resource?

theorem rooted_of_mem (m : Mapping) {x : Text × Handler} (h : x ∈ m.entries) : Text.rooted x.1 = true :=
  rooted_of_kept (m.kept x.1 (Bindings.mem_keys_of_mem h))

end Mapping

/-! ## Looking a path up -/

/-- the more specific of two bindings for a path; the first of two equals -/
def moreSpecific {α : Type} (matcher : PathMatcher) (path : Text) (a b : Text × α) : Text × α :=
  if matcher.compare path a.1 b.1 = .gt then b else a

/-- the binding with the most specific of the patterns that match a path -/
def bestMatch? {α : Type} (matcher : PathMatcher) (path : Text) (entries : List (Text × α)) : Option (Text × α) :=
  match entries.filter fun entry => matcher.accepts entry.1 path with
  | [] => none
  | entry :: more => some (more.foldl (moreSpecific matcher path) entry)

/-- a pattern found for a path, its handler and the part of the path within the pattern -/
structure Hit where
  pattern : Text
  handler : Handler
  within : Text

/-- the handler for a path: the entry of that very text, else the most specific match -/
def Mapping.lookup? (m : Mapping) (matcher : PathMatcher) (path : Text) : Option Hit :=
  match m.entries.get? path with
  | some handler => some ⟨path, handler, path⟩
  | none =>
    (bestMatch? matcher path m.entries.toList).map fun (pattern, handler) =>
      ⟨pattern, handler, matcher.within pattern path⟩

/-! ## Tables of mappings -/

/-- mappings in the order in which they are asked -/
structure RouteTable where
  mappings : List Mapping

namespace RouteTable

/-- no mappings -/
def empty : RouteTable := ⟨[]⟩

/-- the mappings by order -/
def ofMappings (mappings : List Mapping) : RouteTable := ⟨mappings.mergeSort fun a b => a.order ≤ b.order⟩

/-- the table with one more mapping, behind those of equal order -/
def add (table : RouteTable) (m : Mapping) : RouteTable := ofMappings (table.mappings ++ [m])

/-- the hit of the first mapping that has one -/
def lookup? (table : RouteTable) (matcher : PathMatcher) (path : Text) : Option Hit :=
  table.mappings.findSome? (·.lookup? matcher path)

/-- all bindings of patterns to files, mapping by mapping -/
def resources (table : RouteTable) : List (Text × ResourceHandler) := table.mappings.flatMap (·.files.toList)

end RouteTable

end ResourceServer.Routing
