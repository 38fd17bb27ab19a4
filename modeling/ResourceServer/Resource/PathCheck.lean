/-
The checks of a resource path, on its text and below a location.

A path is refused for a `..` between separators, a null character, a separator at its front or a drive letter, in this
order. Both slashes count as separators. Another path stands for the regular file below the first location that has one
there, if the place of this file, links followed, lies below the location's own place.
-/
import ResourceServer.Files.Tree

namespace ResourceServer.Resource

open Files (FileTree FilePath)

/-! ## The text -/

/-- why a resource path is refused -/
inductive PathFault where
  | traversal
  | nullCharacter
  | absolute
  | driveLetter
  deriving DecidableEq, Repr

/-- the fault in words -/
def PathFault.message : PathFault → String
  | .traversal => "Path contains '..' (path traversal attempt)"
  | .nullCharacter => "Path contains null byte"
  | .absolute => "Absolute paths are not allowed"
  | .driveLetter => "Drive letters are not allowed"

/-- whether the character separates the components of a path on some system -/
def separates (c : Char) : Bool := c == '/' || c == '\\'

/-- the first fault of a resource path -/
def pathFault? (path : Text) : Option PathFault :=
  if (Text.piecesBy separates path).contains ['.', '.'] then some .traversal
  else if path.contains '\x00' then some .nullCharacter
  else if path.head?.any separates then some .absolute
  else if path[1]? == some ':' then some .driveLetter
  else none

/-! ## Below locations -/

/-- the place of the file that a path names below a location, if it does not lead out of the location -/
def fileBelow? (tree : FileTree) (path location : Text) : Option FilePath :=
  if tree.isFile (Files.joinPath location path) then
    match tree.canonical location, tree.canonical (Files.joinPath location path) with
    | .ok inside, .ok place => if inside.isPrefixOf place then some place else none
    | _, _ => none
  else none

/-- the file that a path names below the first location that has one -/
def findFile? (tree : FileTree) (path : Text) (locations : List Text) : Option FilePath :=
  if (pathFault? path).isSome then none else locations.findSome? (fileBelow? tree path)

end ResourceServer.Resource
