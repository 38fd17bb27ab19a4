/-
Requests and responses.

A request has a method, a target and headers. The target is a path with a query, the same behind a scheme and an
authority, an authority alone, or a star; its path ends before the query. A response has a status, headers and a body,
which is given whole or streamed. Bodies are kept as they are before any compression.
-/
import ResourceServer.Text
import ResourceServer.Text.Utf8

namespace ResourceServer.Http

/-- headers in order; a name is written in small letters -/
abbrev Headers := List (Text × Text)

/-- the first value of a header -/
def Headers.get? (h : Headers) (name : String) : Option Text := h.lookup name.toList

/-- a header -/
def header (name value : String) : Text × Text := (name.toList, value.toList)

/-- a request; nothing is asked of its body -/
structure Request where
  method : Text
  target : Text
  headers : Headers
  deriving DecidableEq, Repr

namespace Request

/-- whether the character may stand in a scheme -/
def schemeChar (c : Char) : Bool := c.isAlphanum || ['+', '-', '.', '~'].contains c

/-- whether the character ends an authority -/
def endsAuthority (c : Char) : Bool := ['/', '?', '#'].contains c

/-- the target from its path on: a target without a slash in front and without a scheme is an authority alone and has no
path, and behind an authority an empty path stands for the root -/
def place (r : Request) : Text :=
  if Text.rooted r.target || r.target == ['*'] then r.target
  else
    match Text.afterFront? [':', '/', '/'] (r.target.dropWhile schemeChar) with
    | some rest => Text.rootedForm (rest.dropWhile fun c => !endsAuthority c)
    | none => []

/-- the path of the target, as it is written -/
def path (r : Request) : Text := r.place.takeWhile fun c => c != '?' && c != '#'

/-- the query of the target; a fragment does not belong to it -/
def query (r : Request) : Text :=
  match r.place.dropWhile fun c => c != '?' && c != '#' with
  | '?' :: rest => rest.takeWhile (· != '#')
  | _ => []

/-- whether the request has the given method -/
def has (r : Request) (method : String) : Bool := r.method == method.toList

/-- the values of a header, whatever the case of its name -/
def values (r : Request) (name : String) : List Text :=
  r.headers.filterMap fun h => if h.1.map Char.toLower == name.toList then some h.2 else none

end Request

/-- what a response carries, and how it is sent -/
inductive Body where
  | whole (t : Text)
  | streamed (t : Text)
  deriving DecidableEq, Repr

/-- the text of a body -/
def Body.text : Body → Text
  | .whole t => t
  | .streamed t => t

/-- a response -/
structure Response where
  status : Nat
  headers : Headers
  body : Body
  deriving DecidableEq, Repr

namespace Response

/-- a response without headers and body -/
def empty (status : Nat) : Response := ⟨status, [], .whole []⟩

/-- a plain text -/
def ofText (status : Nat) (t : Text) : Response :=
  ⟨status, [header "content-type" "text/plain; charset=utf-8"], .whole t⟩

/-- the response with more headers -/
def withHeaders (r : Response) (more : Headers) : Response := { r with headers := r.headers ++ more }

/-- the number of bytes of the body -/
def size (r : Response) : Nat := Text.byteLength r.body.text

/-- the response with the length of its body -/
def measured (r : Response) : Response :=
  if (r.headers.get? "content-length").isSome then r
  else r.withHeaders [("content-length".toList, Text.ofNat r.size)]

/-- the response without its body -/
def bodiless (r : Response) : Response := { r with body := .whole [] }

end Response

end ResourceServer.Http
