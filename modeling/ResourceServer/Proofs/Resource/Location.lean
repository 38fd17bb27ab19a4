/-
What the location resolver finds.

`Contained` says that a path names a file below a location which it does not lead out of, and `FirstContained` that of
some locations none before has such a file. `findFile?_eq_some_iff`: the resolver finds just these, for the paths that
pass the check.
-/
import ResourceServer.Proofs.Files.Canonical
import ResourceServer.Resource.Location

namespace ResourceServer.Resource

open Files (FileTree FilePath)

/-- the path below the location is a regular file at the place, which lies inside of the location -/
structure Contained (tree : FileTree) (path location : Text) (place : FilePath) : Prop where
  reached : tree.canonical (Files.joinPath location path) = .ok place
  file : ∃ content, tree.node? place = some (.file content)
  inside : ∃ root, tree.canonical location = .ok root ∧ root <+: place

/-- the first of the locations that contain a file for the path has it at the place -/
def FirstContained (tree : FileTree) (path : Text) (locations : List Text) (place : FilePath) : Prop :=
  ∃ before location after, locations = before ++ location :: after ∧ Contained tree path location place ∧
    ∀ l ∈ before, ∀ q, ¬ Contained tree path l q

variable {tree : FileTree} {path location : Text} {locations : List Text} {place : FilePath}

theorem isFile_iff :
    tree.isFile path = true ↔ ∃ p content, tree.canonical path = .ok p ∧ tree.node? p = some (.file content) := by
  have hnode : tree.isFile path = true ↔ ∃ content, tree.nodeAt? path = some (.file content) := by
    rw [FileTree.isFile]
    cases tree.nodeAt? path with
    | none => simp
    | some node => cases node <;> simp
  simp only [hnode, FileTree.nodeAt?_eq_some_iff]
  exact exists_comm

theorem fileBelow?_eq_some_iff : fileBelow? tree path location = some place ↔ Contained tree path location place := by
  rw [fileBelow?]
  constructor
  · intro h
    split_ifs at h with hfile
    obtain ⟨p, content, hreached, hnode⟩ := isFile_iff.1 hfile
    rw [hreached] at h
    cases hroot : tree.canonical location with
    | error f => rw [hroot] at h; cases h
    | ok root =>
      rw [hroot] at h
      dsimp only at h
      split_ifs at h with hinside
      cases h
      exact ⟨hreached, ⟨content, hnode⟩, root, hroot, List.isPrefixOf_iff_prefix.1 hinside⟩
  · rintro ⟨hreached, ⟨content, hnode⟩, root, hroot, hinside⟩
    have hfile : tree.isFile (Files.joinPath location path) = true := isFile_iff.2 ⟨place, content, hreached, hnode⟩
    rw [if_pos hfile, hroot, hreached]
    dsimp only
    rw [if_pos (List.isPrefixOf_iff_prefix.2 hinside)]

theorem fileBelow?_eq_none_iff : fileBelow? tree path location = none ↔ ∀ q, ¬ Contained tree path location q := by
  simp only [Option.eq_none_iff_forall_ne_some, ne_eq, fileBelow?_eq_some_iff]

/-- **The resolver finds the file of the first location that contains one**, and nothing else -/
theorem findFile?_eq_some_iff :
    findFile? tree path locations = some place ↔ pathFault? path = none ∧ FirstContained tree path locations place := by
  have hfirst : locations.findSome? (fileBelow? tree path) = some place ↔
      FirstContained tree path locations place := by
    simp only [FirstContained, List.findSome?_eq_some_iff, fileBelow?_eq_some_iff, fileBelow?_eq_none_iff]
  rw [findFile?, ← hfirst]
  cases pathFault? path <;> simp

/-! ## Plain handlers -/

theorem plain_file? (tree : FileTree) (locations : List Text) (path : Text) :
    (ResourceHandler.plain locations).file? tree path =
      (findFile? tree (Text.trimSlashes path) locations).map FilePath.text := rfl

theorem plain_publicPath? (tree : FileTree) (locations : List Text) (path : Text) :
    (ResourceHandler.plain locations).publicPath? tree path = (findFile? tree path locations).map fun _ => path := rfl

/-! ## The check of paths -/

theorem not_up_of_pathFault? (h : pathFault? path = none) : ['.', '.'] ∉ Text.piecesBy separates path := by
  intro hin
  rw [pathFault?, if_pos (List.contains_iff_mem.2 hin)] at h
  cases h

/-- slashes at the front hide no `..` -/
theorem not_up_of_trimmed (h : pathFault? (Text.trimSlashes path) = none) :
    ['.', '.'] ∉ Text.piecesBy separates path := by
  rw [← Text.mem_piecesBy_trimSlashes rfl (List.cons_ne_nil _ _)]
  exact not_up_of_pathFault? h

end ResourceServer.Resource
