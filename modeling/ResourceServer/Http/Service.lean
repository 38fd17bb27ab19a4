/-
Answering requests.

A request path outside of the context path is not found. A colon in the context path begins a part that stands for any
text up to the next slash. Inside, the endpoints have their exact paths and take `GET` and `HEAD`; every other path is
served from files, for any method. The answer to `HEAD` at an endpoint has no body. A started server has layers around
its answers.
-/
import ResourceServer.Http.Endpoints
import ResourceServer.Http.Layers

namespace ResourceServer.Http

open Files

/-- where the application is, and what is around its answers -/
structure Service where
  contextPath : Text
  layers : Option Layers
  deriving DecidableEq, Repr

/-- the service of a started server -/
def Service.ofServer (s : ServerSettings) : Service := ⟨s.contextPath, some (.ofServer s)⟩

/-- what follows the context path at the front of a request path. From a colon to the next slash the context path stands
for any text without a slash, which may be empty unless the request path ends there; `free` says that such a part has
begun. -/
def afterContext? (free : Bool) : Text → Text → Option Text
  | [], path => some path
  | c :: context, path =>
    if free && c != '/' then afterContext? true context path
    else
      match path with
      | [] => none
      | d :: rest =>
        if c = ':' then afterContext? true context (path.dropWhile (· != '/'))
        else if c = d then afterContext? false context rest
        else none

/-- the path inside of the application; the context path itself stands for its root, and with a slash behind it for
nothing -/
def innerPath? (contextPath path : Text) : Option Text :=
  if contextPath.isEmpty then some path
  else
    match afterContext? false contextPath path with
    | some [] => some ['/']
    | some ('/' :: c :: rest) => some ('/' :: c :: rest)
    | _ => none

/-- the endpoint of a path inside of the application -/
def endpoint? (path : Text) : Option Endpoint := [Endpoint.resourceUrl, Endpoint.mappings].find? (·.path == path)

namespace Service

/-- an answer of the application behind its layers -/
def layered (service : Service) (r : Request) (answer : Response) : Response :=
  match service.layers with
  | none => answer.measured
  | some layers => layers.around r answer.measured

/-- an answer from outside of the application; it is shared with other origins like any other -/
def outside (service : Service) (r : Request) (answer : Response) : Response :=
  match service.layers with
  | none => answer.measured
  | some layers => layers.share r answer.measured

/-- answers a request -/
def answer (service : Service) (state : ServerState) (tree : FileTree) (r : Request) : Response :=
  match innerPath? service.contextPath r.path with
  | none => service.outside r (.empty 404)
  | some path =>
    match endpoint? path with
    | none => service.layered r (state.serve tree r.path)
    | some endpoint =>
      if r.has "GET" then service.layered r (state.answerEndpoint tree r endpoint)
      else if r.has "HEAD" then (service.layered r (state.answerEndpoint tree r endpoint)).bodiless
      else (service.layered r (.empty 405)).withHeaders [header "allow" "GET,HEAD"]

end Service

end ResourceServer.Http
