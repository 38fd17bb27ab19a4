/-
Resolver chains, and the handlers of files.

A resolver answers two questions, about the file of a request path and about the public path of a resource, and may ask
the rest of the chain, changing the path before and the answer after. A chain is the list of its resolvers; the empty
chain answers nothing.

The location resolver ends a chain. It answers with the file that a checked path names below the first location that
has one; the public path of a resource that is found is the path itself.
-/
import ResourceServer.Resource.PathCheck

namespace ResourceServer.Resource

open Files (FileTree)

/-! ## Chains -/

/-- what a resolver sees of the resolvers behind it -/
structure Rest where
  length : Nat
  resource? : Text → List Text → Option Text
  publicPath? : Text → List Text → Option Text

/-- a step of a chain: both answers for a path and some locations, in a file tree and given the rest of the chain -/
structure Resolver where
  label : Text
  resource? : FileTree → Rest → Text → List Text → Option Text
  publicPath? : FileTree → Rest → Text → List Text → Option Text

/-- resolvers in the order in which they are asked -/
abbrev Chain := List Resolver

/-- the answers of a chain -/
def Chain.asked (tree : FileTree) : Chain → Rest
  | [] => ⟨0, fun _ _ => none, fun _ _ => none⟩
  | r :: more => ⟨more.length + 1, r.resource? tree (asked tree more), r.publicPath? tree (asked tree more)⟩

/-- the file for a request path -/
def Chain.resource? (chain : Chain) (tree : FileTree) (path : Text) (locations : List Text) : Option Text :=
  (chain.asked tree).resource? path locations

/-- the path that clients use for a resource -/
def Chain.publicPath? (chain : Chain) (tree : FileTree) (path : Text) (locations : List Text) : Option Text :=
  (chain.asked tree).publicPath? path locations

/-- the labels of a chain's resolvers, in brackets -/
def Chain.describe (chain : Chain) : Text := '[' :: Text.join ", ".toList (chain.map (·.label)) ++ [']']

/-! ## Handlers -/

/-- the resolver that looks paths up in the locations and leaves the rest of the chain alone -/
def locationResolver : Resolver where
  label := "PathResourceResolver".toList
  resource? tree _ path locations := (findFile? tree path locations).map Files.FilePath.text
  publicPath? tree _ path locations := (findFile? tree path locations).map fun _ => path

/-- serves the files of some locations through a chain of resolvers -/
structure ResourceHandler where
  locations : List Text
  chain : Chain

/-- a handler that looks paths up in its locations -/
def ResourceHandler.plain (locations : List Text) : ResourceHandler := ⟨locations, [locationResolver]⟩

/-- the file for a path within the handler's mapping; slashes at its front do not count -/
def ResourceHandler.file? (h : ResourceHandler) (tree : FileTree) (path : Text) : Option Text :=
  h.chain.resource? tree (Text.trimSlashes path) h.locations

/-- the path that clients use for a resource of the handler -/
def ResourceHandler.publicPath? (h : ResourceHandler) (tree : FileTree) (path : Text) : Option Text :=
  h.chain.publicPath? tree path h.locations

end ResourceServer.Resource
