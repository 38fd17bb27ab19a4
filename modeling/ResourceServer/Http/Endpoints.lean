/-
The answers of a server: files, public URLs, and the list of patterns.

The query of a look-up request has the path or the URL that is asked for. It is a list of named values; names that are
not known are left out, and a known one may stand only once.

`ServerState.file?` finds the file for a request path. The lookup path is asked of the route table; the path within the
pattern must be a proper resource path, and the handler's chain finds the file in its locations.
-/
import ResourceServer.Http.FileTypes
import ResourceServer.Http.RequestError
import ResourceServer.Server.State

namespace ResourceServer.Http

/-! ## Queries -/

/-- the named values of a query in order, decoded; an empty part counts for nothing -/
def queryPairs (query : Text) : List (Text × Text) :=
  ((Text.piecesBy (· == '&') query).filter fun part => !part.isEmpty).map fun part =>
    (Request.Percent.decodeForm (part.takeWhile (· != '=')),
      Request.Percent.decodeForm ((part.dropWhile (· != '=')).drop 1))

/-- a path or a URL of a resource, or both -/
structure LookupQuery where
  path : Option Text
  url : Option Text
  deriving DecidableEq, Repr

/-- a name that stands twice in a query -/
structure DuplicateName where
  name : Text
  deriving DecidableEq, Repr

/-- the fault in words -/
def DuplicateName.message (d : DuplicateName) : Text :=
  "Failed to deserialize query string: duplicate field `".toList ++ d.name ++ ['`']

/-- the query with one more named value -/
def LookupQuery.add (q : LookupQuery) (name value : Text) : Except DuplicateName LookupQuery :=
  if name = "path".toList then
    if q.path.isSome then .error ⟨name⟩ else .ok { q with path := some value }
  else if name = "url".toList then
    if q.url.isSome then .error ⟨name⟩ else .ok { q with url := some value }
  else .ok q

/-- the query that some named values make -/
def LookupQuery.ofPairs (q : LookupQuery) : List (Text × Text) → Except DuplicateName LookupQuery
  | [] => .ok q
  | (name, value) :: more =>
    match q.add name value with
    | .error d => .error d
    | .ok q => ofPairs q more

/-- the query of a text -/
def LookupQuery.parse (query : Text) : Except DuplicateName LookupQuery :=
  LookupQuery.ofPairs ⟨none, none⟩ (queryPairs query)

end ResourceServer.Http

/-! ## Answers -/

namespace ResourceServer

open Files Http Request Routing

namespace ServerState

/-- a request path under the context of the server -/
def requested (s : ServerState) (path : Text) : ResourceRequest := .under s.contextPath path

/-- the lookup path of a request path -/
def lookupPath (s : ServerState) (path : Text) : Text := s.provider.options.lookupPath (s.requested path)

/-- the file for a lookup path -/
def fileAt? (s : ServerState) (tree : FileTree) (lookup : Text) : Except RequestError Text :=
  match s.routes.lookup? .standard lookup with
  | none => .error .notFound
  | some hit =>
    match hit.handler.resource? with
    | none => .error .notFound
    | some handler =>
      match Resource.pathFault? (Text.trimSlashes hit.within) with
      | some fault => .error (.invalidPath fault.message.toList)
      | none =>
        match handler.file? tree hit.within with
        | none => .error .notFound
        | some file => .ok file

/-- the file for a request path -/
def file? (s : ServerState) (tree : FileTree) (path : Text) : Except RequestError Text :=
  s.fileAt? tree (s.lookupPath path)

/-- the response with a file; one that is larger than the threshold is streamed -/
def serveFile (s : ServerState) (tree : FileTree) (file : Text) : Response :=
  match tree.read file with
  | .error _ => RequestError.notFound.response
  | .ok content =>
    let large := s.streamingThreshold < Text.byteLength content
    ⟨200, [("content-type".toList, mediaType file)], if large then .streamed content else .whole content⟩

/-- serves the file for a request path -/
def serve (s : ServerState) (tree : FileTree) (path : Text) : Response :=
  match s.file? tree path with
  | .error e => e.response
  | .ok file => s.serveFile tree file

/-- the public URL for a query; the path counts before the URL -/
def publicUrl (s : ServerState) (tree : FileTree) (path : Text) (q : LookupQuery) : Except RequestError Text :=
  let found :=
    match q.path, q.url with
    | some lookup, _ => (s.provider.forLookupPath tree lookup).mapError RequestError.publicUrl
    | none, some url => (s.provider.forRequestUrl tree (s.requested path) url).mapError RequestError.publicUrl
    | none, none => .error (.badRequest "either 'path' or 'url' is required".toList)
  match found with
  | .error e => .error e
  | .ok none => .error .notFound
  | .ok (some url) => .ok url

/-- answers a look-up of a public URL -/
def answerLookup (s : ServerState) (tree : FileTree) (path query : Text) : Response :=
  match LookupQuery.parse query with
  | .error duplicate => .ofText 400 duplicate.message
  | .ok q =>
    match s.publicUrl tree path q with
    | .error e => e.response
    | .ok url => .ofJson 200 (.object [("public_url".toList, .text url)])

/-- the patterns with public URLs and their locations -/
def mappingList (s : ServerState) : Json :=
  .object [
    ("autodetect".toList, .flag s.provider.autodetect),
    ("mappings".toList, .list (s.provider.handlers.map fun (pattern, handler) =>
      .object [("pattern".toList, .text pattern), ("locations".toList, .list (handler.locations.map .text))]))]

/-- answers at an endpoint -/
def answerEndpoint (s : ServerState) (tree : FileTree) (r : Http.Request) (e : Endpoint) : Response :=
  if e = Endpoint.mappings then .ofJson 200 s.mappingList else s.answerLookup tree r.path r.query

end ServerState

end ResourceServer
