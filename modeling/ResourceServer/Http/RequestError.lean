/-
Why a request gets no resource, and the response that says so.
-/
import ResourceServer.Http.Json
import ResourceServer.Http.Message
import ResourceServer.PublicUrl.Lookup
import ResourceServer.Server.Event

namespace ResourceServer.Http

open PublicUrl Routing

/-- why a request fails -/
inductive RequestError where
  | notFound
  | badRequest (reason : Text)
  | invalidPath (reason : Text)
  | publicUrl (e : LookupError)
  | routing (e : RoutingError)
  deriving DecidableEq, Repr

namespace RequestError

/-- the error in words -/
def message : RequestError → String
  | .notFound => "Not found"
  | .badRequest reason => "Bad request: " ++ String.ofList reason
  | .invalidPath reason => "Invalid path: " ++ String.ofList reason
  | .publicUrl e => "Provider error: " ++ e.message
  | .routing e => "Routing error: " ++ e.message

/-- the status of the response -/
def status : RequestError → Nat
  | .notFound => 404
  | .badRequest _ => 400
  | .invalidPath _ => 400
  | .publicUrl (.unresolved _) => 500
  | .publicUrl (.mismatch _) => 400
  | .routing _ => 500

/-- the code in the response -/
def code : RequestError → String
  | .notFound => "NOT_FOUND"
  | .badRequest _ => "BAD_REQUEST"
  | .invalidPath _ => "INVALID_PATH"
  | .publicUrl (.unresolved _) => "INCONSISTENT_CONFIGURATION"
  | .publicUrl (.mismatch _) => "LOOKUP_PATH_MISMATCH"
  | .routing _ => "ROUTING_ERROR"

/-- the explanation in the response -/
def explanation : RequestError → Text
  | .notFound => "Resource not found".toList
  | .badRequest reason => reason
  | .invalidPath reason => reason
  | .publicUrl e => e.message.toList
  | .routing e => e.message.toList

/-- what is logged: a pattern that matches while its handler knows no such resource is a fault of the configuration -/
def entries : RequestError → List LogEntry
  | .publicUrl (.unresolved path) =>
    [⟨.error, "Resource URL configuration is inconsistent: ".toList ++ (LookupError.unresolved path).message.toList⟩]
  | _ => []

/-- the body of the response -/
def body (e : RequestError) : Json :=
  .object [("error".toList, .object [("code".toList, .text e.code.toList), ("message".toList, .text e.explanation)])]

end RequestError

/-- a response with a JSON text -/
def Response.ofJson (status : Nat) (j : Json) : Response :=
  ⟨status, [header "content-type" "application/json"], .whole j.render⟩

/-- the response to a request that fails -/
def RequestError.response (e : RequestError) : Response := .ofJson e.status e.body

end ResourceServer.Http
