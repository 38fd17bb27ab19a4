/-
What a server tells its operator.

An event is printed on the console, or logged, or both stay away: `Event.spans` is what is printed and `Event.entries`
what is logged. A span has one style, which is written as escape codes on a console with colours and left out on one
without. A quiet server does not print the locations that it makes. `Signal` adds the log entries that no event stands
behind.
-/
import ResourceServer.Text

namespace ResourceServer

/-! ## Log entries -/

/-- how much an entry matters -/
inductive Severity where
  | info
  | warning
  | error
  deriving DecidableEq, Repr

/-- an entry of the log -/
structure LogEntry where
  severity : Severity
  text : Text
  deriving DecidableEq, Repr

/-! ## Styled text -/

/-- the looks of printed text -/
inductive Style where
  | plain
  | faint
  | headline
  | grey
  | white
  | red
  | green
  | yellow
  | blue
  | cyan
  deriving DecidableEq, Repr

/-- the code of a style on a console; plain text has none -/
def Style.code? : Style → Option Text
  | .plain => none
  | .faint => some ['2']
  | .headline => some ['1', ';', '3', '7']
  | .grey => some ['9', '0']
  | .white => some ['3', '7']
  | .red => some ['3', '1']
  | .green => some ['3', '2']
  | .yellow => some ['3', '3']
  | .blue => some ['3', '4']
  | .cyan => some ['3', '6']

/-- text of one style -/
structure Span where
  style : Style
  text : Text
  deriving DecidableEq, Repr

/-- text as it is -/
def Span.plain (t : String) : Span := ⟨.plain, t.toList⟩

/-- the escape sequence of a code -/
def escapeSequence (code : Text) : Text := '\x1b' :: '[' :: code ++ ['m']

/-- the sequence after which text is plain again -/
def resetSequence : Text := escapeSequence ['0']

/-- the text with a style set again behind each reset in it -/
def restyled (start : Text) : Nat → Text → Text
  | 0, t => t
  | _ + 1, [] => []
  | n + 1, c :: rest =>
    match Text.afterFront? resetSequence (c :: rest) with
    | some behind => resetSequence ++ start ++ restyled start n behind
    | none => c :: restyled start n rest

/-- a span as a console shows it -/
def Span.render (colour : Bool) (s : Span) : Text :=
  match s.style.code? with
  | none => s.text
  | some code =>
    if colour then escapeSequence code ++ restyled (escapeSequence code) s.text.length s.text ++ resetSequence
    else s.text

/-! ## Events -/

/-- what happens to a server -/
inductive Event where
  | starting
  | ready (address baseUrl : Text)
  | shutdown
  | configLoading (path : Text)
  | configLoaded (mappings : Nat)
  | configCreated (path : Text)
  | configMigrated (added : List Text)
  | configReloaded
  | configRejected (reason : Text)
  | locationCreated (path : Text)
  | locationMissing (pattern path : Text)
  | mappingsRefreshed (patterns : List Text)
  | mappingsConfigured (patterns : List Text)
  | failed (context reason : Text)
  deriving DecidableEq, Repr

/-- the number of the version -/
def version : String := "0.1.0"

/-- a rule across the console -/
def ruler : Text := List.replicate 41 '━'

/-- texts with a comma between any two -/
def listed (ts : List Text) : Text := Text.join [',', ' '] ts

/-- what an event prints -/
def Event.spans (quiet : Bool) : Event → List Span
  | .starting =>
    [.plain "\n", ⟨.grey, ruler⟩, .plain "\n  ", ⟨.headline, "resmap - Static Resource Server".toList⟩, .plain "\n  ",
      ⟨.faint, "Version".toList⟩, .plain " ", ⟨.cyan, version.toList⟩, .plain "\n", ⟨.grey, ruler⟩, .plain "\n\n"]
  | .ready address baseUrl =>
    [⟨.green, ruler⟩, .plain "\n  ", ⟨.white, "Server".toList⟩, .plain " ", ⟨.cyan, address⟩, .plain "\n  ",
      ⟨.white, "URL   ".toList⟩, .plain " ", ⟨.blue, baseUrl⟩, .plain "\n", ⟨.green, ruler⟩, .plain "\n\n"]
  | .shutdown => [.plain "\n", ⟨.red, "Server shutting down".toList⟩, .plain "\n"]
  | .configLoading path => [.plain "  ", ⟨.faint, "Loading config".toList⟩, .plain " ", ⟨.cyan, path⟩, .plain "\n"]
  | .configLoaded 0 => [.plain "  ", ⟨.yellow, ['⚠']⟩, .plain " No resource mappings configured\n"]
  | .configLoaded mappings =>
    [.plain "  ", ⟨.green, ['✓']⟩, .plain " ", ⟨.cyan, Text.ofNat mappings⟩, .plain " resource mapping(s)\n"]
  | .configCreated _ => []
  | .configMigrated added =>
    if added.isEmpty then []
    else [.plain "  ", ⟨.blue, ['↻']⟩, .plain " Config updated: added ", ⟨.faint, listed added⟩, .plain "\n"]
  | .configReloaded => []
  | .configRejected _ => []
  | .locationCreated path =>
    if quiet then [] else [.plain "  ", ⟨.green, ['+']⟩, .plain " Created location ", ⟨.cyan, path⟩, .plain "\n"]
  | .locationMissing _ _ => []
  | .mappingsRefreshed patterns =>
    if patterns.isEmpty then [.plain "  ", ⟨.yellow, ['⚠']⟩, .plain " No public resource mappings\n"]
    else [.plain "  ", ⟨.blue, ['↻']⟩, .plain " Public URLs for ", ⟨.cyan, listed patterns⟩, .plain "\n"]
  | .mappingsConfigured patterns =>
    [.plain "  ", ⟨.green, ['✓']⟩, .plain " Public URLs pinned to ", ⟨.cyan, listed patterns⟩, .plain "\n"]
  | .failed _ _ => []

/-- what an event prints on a console with or without colours -/
def Event.render (quiet colour : Bool) (e : Event) : Text := (e.spans quiet).flatMap (·.render colour)

/-- what an event logs -/
def Event.entries : Event → List LogEntry
  | .configCreated path =>
    [⟨.warning, "Configuration file not found".toList⟩, ⟨.info, "Created default configuration at: ".toList ++ path⟩]
  | .configReloaded => [⟨.info, "Configuration reloaded successfully".toList⟩]
  | .configRejected reason => [⟨.error, "Configuration error: ".toList ++ reason⟩]
  | .locationMissing pattern path =>
    [⟨.warning, "Location '".toList ++ path ++ "' of '".toList ++ pattern ++ "' does not exist".toList⟩]
  | .failed context reason => [⟨.error, context ++ ": ".toList ++ reason⟩]
  | _ => []

/-! ## Signals -/

/-- an event, or an entry that goes to the log only -/
inductive Signal where
  | event (e : Event)
  | log (entry : LogEntry)
  deriving DecidableEq, Repr

/-- what signals print on a console without colours -/
def printed (quiet : Bool) (signals : List Signal) : Text :=
  signals.flatMap fun
    | .event e => e.render quiet false
    | .log _ => []

/-- what signals log -/
def logged (signals : List Signal) : List LogEntry :=
  signals.flatMap fun
    | .event e => e.entries
    | .log entry => [entry]

end ResourceServer
