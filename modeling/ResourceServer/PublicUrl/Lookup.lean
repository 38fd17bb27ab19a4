/-
Public URLs of lookup paths and of request URLs.

A lookup path is compared with the provider's patterns; of those that match the most specific one counts. The path is
split into a front and the part within the pattern, the handler's chain turns that part into a public path, and the
front is put before it. For a request URL, the lookup path of the current request is located in the request's own
path, and the URL is cut at the same position, counted in bytes.
-/
import ResourceServer.PublicUrl.Provider

namespace ResourceServer.PublicUrl

open Files (FileTree)
open Request (ResourceRequest)
open Resource (ResourceHandler)

/-- why a public URL cannot be given -/
inductive LookupError where
  /-- a pattern matches, but its handler knows no such resource -/
  | unresolved (path : Text)
  /-- the URL cannot be cut where the request's lookup path begins -/
  | mismatch (url : Text)
  deriving DecidableEq, Repr

/-- the error in words -/
def LookupError.message : LookupError → String
  | .unresolved path => "Failed to get public resource URL path for '" ++ String.ofList path ++ "'"
  | .mismatch url => "Failed to determine lookup path: " ++ String.ofList url

/-- the front of a lookup path and the part that names the resource. A pattern without wildcards or variables leaves the
whole path without its first slashes. -/
def splitLookup (path : Text) (isLiteral : Bool) (within : Text) : Text × Text :=
  if isLiteral && within.isEmpty then (path.takeWhile (· == '/'), Text.trimSlashes path)
  else
    match Text.beforeBack? within path with
    | some front => (front, within)
    | none => ((Text.beforeFirst? within path).getD [], within)

namespace Provider

/-- the public URL of a lookup path among patterns that are visited one after the other; none where no pattern matches
-/
def forLookupPathAmong (p : Provider) (visits : List (Text × ResourceHandler)) (tree : FileTree) (path : Text) :
    Except LookupError (Option Text) :=
  match Routing.bestMatch? p.matcher path visits with
  | none => .ok none
  | some (pattern, handler) =>
    let (front, within) := splitLookup path (!p.matcher.isPattern pattern) (p.matcher.within pattern path)
    match handler.publicPath? tree within with
    | none => .error (.unresolved within)
    | some public' => .ok (some (front ++ public'))

/-- the public URL of a lookup path -/
def forLookupPath (p : Provider) (tree : FileTree) (path : Text) : Except LookupError (Option Text) :=
  p.forLookupPathAmong p.handlers.toList tree path

/-- the position, in bytes, of the lookup path in a request path: at its end, else where it first occurs -/
def lookupPosition? (lookup uri : Text) : Option Nat :=
  match Text.beforeBack? lookup uri with
  | some front => some (Text.byteLength front)
  | none => (Text.beforeFirst? lookup uri).map Text.byteLength

/-- the public URL of a request URL, its front kept -/
def forRequestUrl (p : Provider) (tree : FileTree) (r : ResourceRequest) (url : Text) :
    Except LookupError (Option Text) :=
  let lookup := r.attachedPath.getD (p.options.lookupPath r)
  match lookupPosition? lookup (p.options.requestUri r) with
  | none => .error (.mismatch url)
  | some position =>
    if position < Text.byteLength url then
      match Text.cutAtByte? position url with
      | none => .error (.mismatch url)
      | some (front, path) => (p.forLookupPath tree path).map fun found => found.map (front ++ ·)
    else .error (.mismatch url)

end Provider

end ResourceServer.PublicUrl
