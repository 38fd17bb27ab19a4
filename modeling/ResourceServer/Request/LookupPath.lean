/-
The path by which a request is looked up among the mappings.

A request carries its raw path, the context path of the application, the servlet path within it, and perhaps a path that
a mapping attached before. `PathOptions.clean` drops path parameters, reads percent escapes and collapses repeated
slashes, each of the first two if the options say so. `lookupPath` is the cleaned path within the servlet, or within the
application where the former is empty or the options ask for the full path.
-/
import ResourceServer.Text.Utf8

namespace ResourceServer.Request

/-- what is known of a request's path -/
structure ResourceRequest where
  uri : Text
  contextPath : Text
  servletPath : Text
  attachedPath : Option Text
  deriving DecidableEq, Repr

/-- a request for a raw path under a context path -/
def ResourceRequest.under (contextPath uri : Text) : ResourceRequest := ⟨uri, contextPath, [], none⟩

/-- how request paths are read -/
structure PathOptions where
  alwaysUseFullPath : Bool
  decodeEscapes : Bool
  removeParameters : Bool
  deriving DecidableEq, Repr

/-- escapes are read, parameters dropped, and the servlet path counts -/
def PathOptions.standard : PathOptions := ⟨false, true, true⟩

/-! ## Cleaning -/

/-- drops what follows a semicolon up to the next slash; the flag says whether the text starts inside such a part -/
def dropParametersFrom : Bool → Text → Text
  | _, [] => []
  | inside, c :: rest =>
    if c = '/' then c :: dropParametersFrom false rest
    else if inside || c = ';' then dropParametersFrom true rest
    else c :: dropParametersFrom false rest

/-- the text without path parameters -/
def dropParameters (t : Text) : Text := dropParametersFrom false t

/-- drops each slash behind a slash; the flag says whether the text follows one -/
def collapseFrom : Bool → Text → Text
  | _, [] => []
  | behind, c :: rest =>
    if c = '/' then if behind then collapseFrom true rest else c :: collapseFrom true rest
    else c :: collapseFrom false rest

/-- the text with one slash in place of several -/
def collapseSlashes (t : Text) : Text := collapseFrom false t

/-- the text that the escapes stand for; a text that does not decode is kept as a whole -/
def decodeOrKeep (t : Text) : Text := (Percent.decode? t).getD t

namespace PathOptions

variable (o : PathOptions)

/-- the cleaned path -/
def clean (t : Text) : Text :=
  let t := if o.removeParameters then dropParameters t else t
  let t := if o.decodeEscapes then decodeOrKeep t else t
  collapseSlashes t

/-! ## Paths of a request -/

/-- the cleaned path of the request, context path included -/
def requestUri (r : ResourceRequest) : Text := o.clean r.uri

/-- the cleaned context path; the root is the empty one -/
def contextPath (r : ResourceRequest) : Text := if r.contextPath = ['/'] then [] else o.clean r.contextPath

/-- the path behind the context path; a path that does not start with it is kept -/
def withinApplication (r : ResourceRequest) : Text :=
  match Text.afterFront? (o.contextPath r) (o.requestUri r) with
  | some [] => ['/']
  | some rest => rest
  | none => o.requestUri r

/-- the path behind the servlet path, which stands for itself where the path does not run through it -/
def withinServlet (r : ResourceRequest) : Text :=
  let servlet := o.clean r.servletPath
  (Text.afterFront? servlet (o.withinApplication r)).getD servlet

/-- the path by which the request is looked up -/
def lookupPath (r : ResourceRequest) : Text :=
  if o.alwaysUseFullPath then o.withinApplication r
  else if (o.withinServlet r).isEmpty then o.withinApplication r
  else o.withinServlet r

end PathOptions

end ResourceServer.Request
