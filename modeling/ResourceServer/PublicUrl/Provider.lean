/-
The provider of public URLs: which patterns serve files, and how request paths are read.

The patterns are either detected from a route table at each refresh, or configured; once they were configured, refreshes
change nothing. `Provider.step` is one change of a provider, and `Provider.run` a history of them.
- `refresh_of_autodetect`, `refresh_of_configured`: what a refresh does in either case.
-/
import ResourceServer.Request.LookupPath
import ResourceServer.Routing.Mapping
import ResourceServer.Text.Printing

namespace ResourceServer.PublicUrl

open Resource (ResourceHandler)
open Routing (Bindings RouteTable)
open Request (PathOptions)
open Glob (PathMatcher)

/-- patterns with their handlers of files, whether refreshes detect them, and how paths are read and matched -/
structure Provider where
  options : PathOptions
  matcher : PathMatcher
  handlers : Bindings ResourceHandler
  autodetect : Bool

namespace Provider

/-- no patterns yet; refreshes detect them -/
def initial : Provider := ⟨PathOptions.standard, PathMatcher.standard, .empty, true⟩

/-- adds or replaces the patterns that a route table serves files for -/
def detect (p : Provider) (table : RouteTable) : Provider := { p with handlers := p.handlers.insertAll table.resources }

/-- detects the patterns anew, unless they were configured -/
def refresh (p : Provider) (table : RouteTable) : Provider :=
  if p.autodetect then { p with handlers := .empty }.detect table else p

/-- configures the patterns; of equal ones the last counts -/
def configure (p : Provider) (handlers : List (Text × ResourceHandler)) : Provider :=
  { p with handlers := Bindings.insertAll .empty handlers, autodetect := false }

/-- sets how request paths are read -/
def setOptions (p : Provider) (options : PathOptions) : Provider := { p with options }

/-- sets how paths are matched -/
def setMatcher (p : Provider) (matcher : PathMatcher) : Provider := { p with matcher }

/-! ## What changes leave as it is -/

variable {p : Provider} {table : RouteTable}

theorem refresh_of_autodetect (h : p.autodetect = true) :
    p.refresh table = { p with handlers := Bindings.insertAll .empty table.resources } := by
  rw [refresh, if_pos h]
  rfl

theorem refresh_of_configured (h : p.autodetect = false) : p.refresh table = p := by
  rw [refresh, if_neg (by simp [h])]

@[simp] theorem refresh_autodetect (p : Provider) (table : RouteTable) :
    (p.refresh table).autodetect = p.autodetect := by
  cases h : p.autodetect with
  | true => rw [refresh_of_autodetect h, ← h]
  | false => rw [refresh_of_configured h, h]

@[simp] theorem refresh_options (p : Provider) (table : RouteTable) : (p.refresh table).options = p.options := by
  cases h : p.autodetect with
  | true => rw [refresh_of_autodetect h]
  | false => rw [refresh_of_configured h]

@[simp] theorem refresh_matcher (p : Provider) (table : RouteTable) : (p.refresh table).matcher = p.matcher := by
  cases h : p.autodetect with
  | true => rw [refresh_of_autodetect h]
  | false => rw [refresh_of_configured h]

@[simp] theorem setOptions_autodetect (p : Provider) (o : PathOptions) :
    (p.setOptions o).autodetect = p.autodetect := rfl

@[simp] theorem setOptions_handlers (p : Provider) (o : PathOptions) :
    (p.setOptions o).handlers = p.handlers := rfl

/-! ## Histories -/

/-- a change of a provider, or a look-up, which changes nothing -/
inductive Op where
  | configure (handlers : List (Text × ResourceHandler))
  | refresh (table : RouteTable)
  | detect (table : RouteTable)
  | setOptions (options : PathOptions)
  | setMatcher (matcher : PathMatcher)
  | lookup (path : Text)

/-- one change -/
def step (p : Provider) : Op → Provider
  | .configure handlers => p.configure handlers
  | .refresh table => p.refresh table
  | .detect table => p.detect table
  | .setOptions options => p.setOptions options
  | .setMatcher matcher => p.setMatcher matcher
  | .lookup _ => p

/-- a history of changes of a new provider -/
def run (ops : List Op) : Provider := ops.foldl step initial

/-! ## In words -/

/-- a truth value in words -/
def flagText (b : Bool) : Text := if b then "true".toList else "false".toList

/-- the provider in one line: its options, its patterns and whether it detects them -/
def describe (p : Provider) : Text :=
  "ResourceUrlProvider \x7b path_helper: UrlPathHelper \x7b always_use_full_path: ".toList
    ++ flagText p.options.alwaysUseFullPath ++ ", url_decode: ".toList ++ flagText p.options.decodeEscapes
    ++ ", remove_semicolon_content: ".toList ++ flagText p.options.removeParameters ++ " \x7d, patterns: [".toList
    ++ Text.join ", ".toList (p.handlers.keys.map Text.quoted) ++ "], autodetect: ".toList
    ++ flagText p.autodetect ++ " \x7d".toList

end Provider

end ResourceServer.PublicUrl
