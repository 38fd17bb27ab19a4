/-
A file tree: directories, regular files and symbolic links under a root, and a working directory.

A file path is the list of names from the root. A path text is followed name by name: `.` and empty names stay, `..`
goes up, and a link is replaced by its target, at most `linkLimit` times. Each step asks that the place so far is a
directory, so a slash behind a file leads nowhere. Names and whole paths have a greatest length in bytes.
`FileTree.canonical` gives the place reached, without links or dots, and the questions `isFile`, `isDirectory` and
`present` are asked of that place.
-/
import ResourceServer.Text.Utf8

namespace ResourceServer.Files

/-- the names from the root to a place -/
abbrev FilePath := List Text

/-- what is at a place -/
inductive Node where
  | directory
  | file (content : Text)
  | link (target : Text)
  deriving DecidableEq, Repr

/-- the nodes below the root and the place that relative paths start from -/
structure FileTree where
  nodes : List (FilePath × Node)
  workingDirectory : FilePath
  deriving DecidableEq, Repr

/-- why a path cannot be followed or a node not be made -/
inductive Fault where
  | missing
  | notDirectory
  | isDirectory
  | occupied
  | linkLoop
  | tooLong
  | nullCharacter
  deriving DecidableEq, Repr

/-- the fault in the words of the system -/
def Fault.message : Fault → String
  | .missing => "No such file or directory (os error 2)"
  | .notDirectory => "Not a directory (os error 20)"
  | .isDirectory => "Is a directory (os error 21)"
  | .occupied => "File exists (os error 17)"
  | .linkLoop => "Too many levels of symbolic links (os error 40)"
  | .tooLong => "File name too long (os error 36)"
  | .nullCharacter => "file name contained an unexpected NUL byte"

/-! ## Path texts -/

/-- the text of a file path -/
def FilePath.text (p : FilePath) : Text := '/' :: Text.join ['/'] p

/-- puts a relative path behind a base; a rooted one stands for itself -/
def joinPath (base path : Text) : Text :=
  if Text.rooted path then path
  else if base.isEmpty || Text.closed base then base ++ path
  else base ++ '/' :: path

/-- the most bytes of a name -/
def nameLimit : Nat := 255

/-- the most bytes of a path -/
def pathLimit : Nat := 4095

/-- whether a name is too long for any node -/
def longName (name : Text) : Bool := nameLimit < Text.byteLength name

/-- why no path text like this one is followed, whatever the tree -/
def textFault? (path : Text) : Option Fault :=
  if path.isEmpty then some .missing
  else if path.contains '\x00' then some .nullCharacter
  else if pathLimit < Text.byteLength path then some .tooLong
  else none

namespace FileTree

variable (tree : FileTree)

/-- the text of the path from the root, its names left as they are -/
def absolute (path : Text) : Text := joinPath (FilePath.text tree.workingDirectory) path

/-! ## Nodes -/

/-- the node at a place; the root is a directory -/
def node? (p : FilePath) : Option Node := if p = [] then some .directory else tree.nodes.lookup p

/-- the tree with the node at a place replaced or added -/
def put (p : FilePath) (n : Node) : FileTree :=
  if tree.nodes.any (·.1 == p) then
    { tree with nodes := tree.nodes.map fun entry => if entry.1 == p then (p, n) else entry }
  else { tree with nodes := tree.nodes ++ [(p, n)] }

/-- the tree without a place and all below it -/
def prune (p : FilePath) : FileTree := { tree with nodes := tree.nodes.filter fun entry => !p.isPrefixOf entry.1 }

/-- the tree without all that is below a place, which stays -/
def clear (p : FilePath) : FileTree :=
  { tree with nodes := tree.nodes.filter fun entry => entry.1 == p || !p.isPrefixOf entry.1 }

/-! ## Following a path -/

/-- the most links that one path may lead through -/
def linkLimit : Nat := 40

/-- where following names ends: at a place, at a fault, or at a link with names left to follow -/
inductive Trail where
  | arrived (p : FilePath)
  | broken (f : Fault)
  | atLink (base : FilePath) (target : Text) (rest : List Text)

/-- follows names from a place up to the first link -/
def followNames : FilePath → List Text → Trail
  | p, [] => .arrived p
  | p, name :: rest =>
    if tree.node? p ≠ some .directory then .broken .notDirectory
    else if name = [] ∨ name = ['.'] then followNames p rest
    else if name = ['.', '.'] then followNames p.dropLast rest
    else if longName name then .broken .tooLong
    else
      match tree.node? (p ++ [name]) with
      | none => .broken .missing
      | some (.link target) => .atLink p target rest
      | some _ => followNames (p ++ [name]) rest

/-- the place that a path text is followed from -/
def base (from' : FilePath) (path : Text) : FilePath := if Text.rooted path then [] else from'

/-- follows names and at most the given number of links -/
def followLinks : Nat → FilePath → List Text → Except Fault FilePath
  | links, p, names =>
    match tree.followNames p names with
    | .arrived q => .ok q
    | .broken f => .error f
    | .atLink q target rest =>
      match links with
      | 0 => .error .linkLoop
      | links + 1 => followLinks links (base q target) (Text.pieces target ++ rest)

/-- the place that a path text leads to, through links and dots -/
def canonical (path : Text) : Except Fault FilePath :=
  match textFault? path with
  | some f => .error f
  | none => tree.followLinks linkLimit (base tree.workingDirectory path) (Text.pieces path)

/-- the node that a path text leads to -/
def nodeAt? (path : Text) : Option Node :=
  match tree.canonical path with
  | .ok p => tree.node? p
  | .error _ => none

/-- whether the path leads somewhere -/
def present (path : Text) : Bool := (tree.nodeAt? path).isSome

/-- whether the path leads to a directory -/
def isDirectory (path : Text) : Bool := tree.nodeAt? path == some .directory

/-- whether the path leads to a regular file -/
def isFile (path : Text) : Bool :=
  match tree.nodeAt? path with
  | some (.file _) => true
  | _ => false

/-! ## Reading and writing -/

/-- the content of the file that the path leads to -/
def read (path : Text) : Except Fault Text :=
  match tree.canonical path with
  | .error f => .error f
  | .ok p =>
    match tree.node? p with
    | some (.file content) => .ok content
    | some .directory => .error .isDirectory
    | _ => .error .missing

/-- where names that are followed but for the last one lead: the directory of the last name, and that name -/
def parentOf (links : Nat) (p : FilePath) (names : List Text) : Except Fault (FilePath × Text) :=
  match names.getLast? with
  | none => .error .isDirectory
  | some name =>
    match tree.followLinks links p names.dropLast with
    | .error f => .error f
    | .ok q => if tree.node? q = some .directory then .ok (q, name) else .error .notDirectory

/-- the place where writing to a path puts the content: the file it leads to, or a new one in an existing directory,
also where a link points to it -/
def writePlace : Nat → FilePath → List Text → Except Fault FilePath
  | links, p, names =>
    match tree.parentOf linkLimit p names with
    | .error f => .error f
    | .ok (q, name) =>
      if name = [] ∨ name = ['.'] ∨ name = ['.', '.'] then .error .isDirectory
      else if longName name then .error .tooLong
      else
        match tree.node? (q ++ [name]) with
        | some .directory => .error .isDirectory
        | some (.link target) =>
          match links with
          | 0 => .error .linkLoop
          | links + 1 => writePlace links (base q target) (Text.pieces target)
        | _ => .ok (q ++ [name])

/-- the tree after the content is written to the file that the path leads to -/
def write (path content : Text) : Except Fault FileTree :=
  match textFault? path with
  | some f => .error f
  | none =>
    match tree.writePlace linkLimit (base tree.workingDirectory path) (Text.pieces path) with
    | .error f => .error f
    | .ok p => .ok (tree.put p (.file content))

/-- the names without empty ones at the end -/
def trimNames (names : List Text) : List Text := (names.reverse.dropWhile (·.isEmpty)).reverse

/-- the tree after what is at a path is taken away, a link itself and not what it leads to. A path that ends in a dot
name, or in a slash behind a link, names a directory without being its place: it is emptied and stays. A slash behind a
file leads nowhere. -/
def remove (path : Text) : FileTree :=
  let start := base tree.workingDirectory path
  let names := trimNames (Text.pieces path)
  match textFault? path, tree.parentOf linkLimit start names with
  | none, .ok (p, name) =>
    let place := p ++ [name]
    if name = ['.'] ∨ name = ['.', '.'] ∨ Text.closed path ∧ tree.node? place ≠ some .directory then
      match tree.followLinks linkLimit start names with
      | .ok q => if tree.node? q = some .directory then tree.clear q else tree
      | .error _ => tree
    else tree.prune place
  | _, _ => tree

/-! ## Making directories -/

/-- makes one directory, named from the root -/
def makeDirectory (names : List Text) : Except Fault FileTree :=
  match tree.parentOf linkLimit [] (trimNames names) with
  | .error .isDirectory => .error .occupied
  | .error f => .error f
  | .ok (q, name) =>
    if name = ['.'] ∨ name = ['.', '.'] ∨ (tree.node? (q ++ [name])).isSome then .error .occupied
    else if longName name then .error .tooLong
    else .ok (tree.put (q ++ [name]) .directory)

/-- whether names from the root lead to a directory -/
def isDirectoryAt (names : List Text) : Bool :=
  match tree.followLinks linkLimit [] names with
  | .ok p => tree.node? p == some .directory
  | .error _ => false

/-- makes a directory, or finds it there -/
def settleDirectory (names : List Text) : FileTree × Option Fault :=
  match tree.makeDirectory names with
  | .ok made => (made, none)
  | .error .occupied => if tree.isDirectoryAt names then (tree, none) else (tree, some .occupied)
  | .error f => (tree, some f)

/-- makes the first of the directories, each inside of the next one, and before it those of the others that are
missing -/
def makeNested : List (List Text) → FileTree × Option Fault
  | [] => (tree, none)
  | names :: outer =>
    match tree.settleDirectory names with
    | (_, some .missing) =>
      match makeNested outer with
      | (made, none) => made.settleDirectory names
      | (made, some f) => (made, some f)
    | result => result

/-- the proper beginnings of a list of names, the longest first -/
def beginnings (names : List Text) : List (List Text) := (List.range names.length).reverse.map names.take

/-- makes the directory of a rooted path and those it lies in -/
def makeDirectories (path : Text) : FileTree × Option Fault :=
  match textFault? path with
  | some f => (tree, some f)
  | none =>
    let names := Text.pieces path
    tree.makeNested (names :: beginnings (names.filter fun n => !n.isEmpty && n != ['.']))

end FileTree

end ResourceServer.Files
