/-
A path that passes the check leads down from its location.

A step up is refused by its text, so following the path behind the place of the location adds one name after the other,
until a link is met. Where there is none, the place of a file lies below the place of the location by construction, and
the test for it never fails.
- `followNames_descends`, `followLinks_descends`: names without steps up lead down, or to a link on their way.
- `canonical_joinPath`: what is put behind a location is followed from the place of the location.
- `fileBelow?_descends`: the file lies at the place of the location extended by the names of the path; the test refuses
  it only if the path meets a link.
-/
import ResourceServer.Proofs.Files.Writing
import ResourceServer.Proofs.Resource.Location
import ResourceServer.Proofs.Text.Segments

namespace ResourceServer.Files

/-- the names that lead on from a place: neither empty nor a dot -/
def ownNames (names : List Text) : List Text := names.filter fun n => !n.isEmpty && n != ['.']

theorem ownNames_cons_of_stay {name : Text} (h : name = [] ∨ name = ['.']) (names : List Text) :
    ownNames (name :: names) = ownNames names := by
  rcases h with rfl | rfl <;> rfl

theorem ownNames_cons {name : Text} (h : ¬ (name = [] ∨ name = ['.'])) (names : List Text) :
    ownNames (name :: names) = name :: ownNames names := by
  rw [not_or] at h
  exact List.filter_cons_of_pos (by simp [h.1, h.2])

namespace FileTree

variable {tree : FileTree} {p q : FilePath} {names : List Text}

/-- no node is a link -/
def Linkless (tree : FileTree) : Prop := ∀ q target, tree.node? q ≠ some (.link target)

/-- names that are followed down from a place pass a link -/
def MeetsLink (tree : FileTree) (p : FilePath) (names : List Text) : Prop :=
  ∃ n target, tree.node? (p ++ names.take n) = some (.link target)

theorem Linkless.not_meetsLink (h : tree.Linkless) (p : FilePath) (names : List Text) : ¬ tree.MeetsLink p names := by
  rintro ⟨n, target, hlink⟩
  exact h _ target hlink

theorem MeetsLink.cons {name : Text} (h : tree.MeetsLink (p ++ [name]) names) : tree.MeetsLink p (name :: names) := by
  obtain ⟨n, target, hlink⟩ := h
  exact ⟨n + 1, target, by rwa [List.take_succ_cons, ← List.singleton_append, ← List.append_assoc]⟩

/-! ## Following names without steps up -/

/-- the trail leads down by the names, or to a link that they meet -/
def Trail.Descends (tree : FileTree) (p : FilePath) (names : List Text) : Trail → Prop
  | .arrived q => q = p ++ names
  | .broken _ => True
  | .atLink _ _ _ => tree.MeetsLink p names

theorem Trail.Descends.cons {name : Text} {trail : Trail} (h : trail.Descends tree (p ++ [name]) names) :
    trail.Descends tree p (name :: names) := by
  cases trail with
  | arrived q => exact h.trans (List.append_assoc p [name] names)
  | broken f => trivial
  | atLink place target rest => exact MeetsLink.cons h

theorem followNames_descends (hup : ['.', '.'] ∉ names) :
    (tree.followNames p names).Descends tree p (ownNames names) := by
  induction names generalizing p with
  | nil => exact (List.append_nil p).symm
  | cons name rest ih =>
    rw [List.mem_cons, not_or] at hup
    rw [followNames]
    split_ifs with hdir hhere hname hlong
    · trivial
    · rw [ownNames_cons_of_stay hhere]
      exact ih hup.2
    · exact absurd hname.symm hup.1
    · trivial
    · rw [ownNames_cons hhere]
      cases hnode : tree.node? (p ++ [name]) with
      | none => trivial
      | some node =>
        cases node with
        | directory => exact (ih hup.2).cons
        | file content => exact (ih hup.2).cons
        | link target => exact ⟨1, target, hnode⟩

/-- names without steps up lead down, unless a link is met -/
theorem followLinks_descends {links : ℕ} (hup : ['.', '.'] ∉ names) (hq : tree.followLinks links p names = .ok q) :
    q = p ++ ownNames names ∨ tree.MeetsLink p (ownNames names) := by
  have hdescends : (tree.followNames p names).Descends tree p (ownNames names) := followNames_descends hup
  rcases followLinks_cases hq with harrived | ⟨left, place, target, rest, -, hlink, -⟩
  · rw [harrived] at hdescends
    exact .inl hdescends
  · rw [hlink] at hdescends
    exact .inr hdescends

/-! ## What is put behind a location -/

/-- an empty name, such as a slash at the end leaves, leads nowhere else -/
theorem followLinks_empty_name {links : ℕ} (hq : tree.followLinks links p [[]] = .ok q) : q = p := by
  rw [followLinks_eq, followNames] at hq
  by_cases hdir : tree.node? p = some .directory
  · rw [if_neg (not_not.2 hdir), if_pos (.inl rfl), followNames] at hq
    cases hq
    rfl
  · rw [if_pos hdir] at hq
    cases hq

/-- a location and a path behind it meet at a slash, which the location may bring itself -/
theorem exists_joinPath_eq {location path : Text} (hne : location ≠ []) (hrel : Text.rooted path = false) :
    ∃ front, joinPath location path = front ++ '/' :: path ∧ (location = front ∨ location = front ++ ['/']) := by
  rw [joinPath, if_neg (by simp [hrel])]
  split_ifs with hends
  · have hclosed : Text.closed location = true := by simpa [hne] using hends
    have hlast : location.getLast? = some '/' := by simpa [Text.closed] using hclosed
    obtain ⟨front, rfl⟩ := List.getLast?_eq_some_iff.1 hlast
    exact ⟨front, by simp, .inr rfl⟩
  · exact ⟨location, rfl, .inl rfl⟩

/-- a path behind a location is followed from where the location leads -/
theorem canonical_joinPath {location path : Text} {root place : FilePath} (hrel : Text.rooted path = false)
    (hroot : tree.canonical location = .ok root) (hplace : tree.canonical (joinPath location path) = .ok place) :
    ∃ left, tree.followLinks left root (Text.pieces path) = .ok place := by
  obtain ⟨htext, hroot⟩ := canonical_eq_ok_iff.1 hroot
  obtain ⟨-, hplace⟩ := canonical_eq_ok_iff.1 hplace
  have hne : location ≠ [] := by
    rintro rfl
    cases htext
  obtain ⟨front, hjoin, hlocation⟩ := exists_joinPath_eq hne hrel
  have hbase : base tree.workingDirectory (joinPath location path) = base tree.workingDirectory location := by
    have hrooted : Text.rooted (joinPath location path) = Text.rooted location := by
      rw [hjoin]
      rcases hlocation with rfl | rfl
      · exact Text.rooted_append hne _
      · rw [List.append_cons]
        exact Text.rooted_append hne _
    rw [base, base, hrooted]
  rw [hbase, hjoin, Text.pieces_glue] at hplace
  obtain ⟨left, r, -, hfront, hmore⟩ := followLinks_append hplace
  refine ⟨left, ?_⟩
  rcases hlocation with rfl | rfl
  · rw [hroot] at hfront
    cases hfront
    exact hmore
  · rw [Text.pieces_concat_slash] at hroot
    obtain ⟨left', r', -, hfront', hlast⟩ := followLinks_append hroot
    rw [hfront] at hfront'
    cases hfront'
    rwa [followLinks_empty_name hlast]

end FileTree

end ResourceServer.Files

namespace ResourceServer.Resource

open Files (FileTree FilePath ownNames)

variable {tree : FileTree} {location path : Text}

/-! ## The check of paths -/

/-- the check sees a step up between slashes, as it cuts there and at more places -/
theorem not_up_of_unfaulted (h : pathFault? path = none) : ['.', '.'] ∉ Text.pieces path := by
  intro hin
  refine not_up_of_pathFault? h ?_
  have hcut : Text.piecesBy separates path = (Text.pieces path).flatMap (Text.piecesBy (· == '\\')) :=
    Text.piecesBy_or (· == '/') (· == '\\') path
  rw [hcut, List.mem_flatMap]
  exact ⟨['.', '.'], hin, List.mem_singleton.2 rfl⟩

theorem not_rooted_of_unfaulted (h : pathFault? path = none) : Text.rooted path = false := by
  rw [Bool.eq_false_iff]
  intro hrooted
  obtain ⟨rest, rfl⟩ := Text.rooted_iff.1 hrooted
  rw [pathFault?] at h
  split_ifs at h with _ _ hhead
  exact hhead rfl

/-! ## Files below a location -/

/-- the file lies below the location by the names of the path, unless they meet a link -/
theorem isFile_descends {root : FilePath} (hroot : tree.canonical location = .ok root) (hpath : pathFault? path = none)
    (hfile : tree.isFile (Files.joinPath location path) = true) :
    Contained tree path location (root ++ ownNames (Text.pieces path)) ∨
      tree.MeetsLink root (ownNames (Text.pieces path)) := by
  obtain ⟨place, content, hplace, hnode⟩ := isFile_iff.1 hfile
  obtain ⟨left, hfollow⟩ := FileTree.canonical_joinPath (not_rooted_of_unfaulted hpath) hroot hplace
  rcases FileTree.followLinks_descends (not_up_of_unfaulted hpath) hfollow with rfl | hlink
  · exact .inl ⟨hplace, ⟨content, hnode⟩, root, hroot, List.prefix_append _ _⟩
  · exact .inr hlink

/-- **The check of the text confines a path where there are no links.** For a location that is a directory and a path
that passes the check, behind which there is a regular file: without links in the tree, the place of the file is the
place of the location extended by the names of the path other than dots and empty ones, and that is what is found. In
any tree the file is refused only if these names, followed from the place of the location, meet a link. -/
theorem fileBelow?_descends (hdir : tree.isDirectory location = true) (hpath : pathFault? path = none)
    (hfile : tree.isFile (Files.joinPath location path) = true) :
    ∃ root, tree.canonical location = .ok root ∧
      (tree.Linkless →
        tree.canonical (Files.joinPath location path) = .ok (root ++ ownNames (Text.pieces path)) ∧
        fileBelow? tree path location = some (root ++ ownNames (Text.pieces path)) ∧
        ∀ more, findFile? tree path (location :: more) = some (root ++ ownNames (Text.pieces path))) ∧
      (fileBelow? tree path location = none → tree.MeetsLink root (ownNames (Text.pieces path))) := by
  obtain ⟨root, hroot, -⟩ := FileTree.nodeAt?_eq_some_iff.1 (beq_iff_eq.1 hdir)
  refine ⟨root, hroot, fun hlinkless => ?_, fun hnone => ?_⟩
  · have hcontained := (isFile_descends hroot hpath hfile).resolve_right (hlinkless.not_meetsLink _ _)
    have hfirst : ∀ more, FirstContained tree path (location :: more) (root ++ ownNames (Text.pieces path)) :=
      fun more => ⟨[], location, more, rfl, hcontained, by simp⟩
    exact ⟨hcontained.reached, fileBelow?_eq_some_iff.2 hcontained,
      fun more => findFile?_eq_some_iff.2 ⟨hpath, hfirst more⟩⟩
  · exact (isFile_descends hroot hpath hfile).resolve_left (fileBelow?_eq_none_iff.1 hnone _)

/-- a directory `/srv/site` with a file whose name holds dots and a backslash -/
def plainTree : FileTree where
  nodes := [(["srv".toList], .directory), (["srv".toList, "site".toList], .directory),
    (["srv".toList, "site".toList, "css".toList], .directory),
    (["srv".toList, "site".toList, "css".toList, "a..\\..b".toList], .file "x".toList)]
  workingDirectory := ["srv".toList]

theorem plainTree_linkless : plainTree.Linkless := by
  intro q target
  rw [FileTree.node?]
  split_ifs with hroot
  · simp
  · intro hlink
    have hin := Text.mem_of_lookup hlink
    simp [plainTree] at hin

/-- a location with dots and a slash at its end, and a path with dots, doubled slashes and dots inside of a name -/
theorem fileBelow?_descends_dotted :
    plainTree.isDirectory "site/.././site/".toList = true ∧ pathFault? "./css//./a..\\..b".toList = none ∧
      plainTree.isFile (Files.joinPath "site/.././site/".toList "./css//./a..\\..b".toList) = true ∧
      plainTree.Linkless ∧
      fileBelow? plainTree "./css//./a..\\..b".toList "site/.././site/".toList =
        some ["srv".toList, "site".toList, "css".toList, "a..\\..b".toList] := by
  have hdir : plainTree.isDirectory "site/.././site/".toList = true := by decide +kernel
  have hpath : pathFault? "./css//./a..\\..b".toList = none := by decide +kernel
  have hfile : plainTree.isFile (Files.joinPath "site/.././site/".toList "./css//./a..\\..b".toList) = true := by
    decide +kernel
  obtain ⟨root, hroot, hfound, -⟩ := fileBelow?_descends hdir hpath hfile
  have hplace : plainTree.canonical "site/.././site/".toList = .ok ["srv".toList, "site".toList] := by decide +kernel
  rw [hplace] at hroot
  cases hroot
  exact ⟨hdir, hpath, hfile, plainTree_linkless, (hfound plainTree_linkless).2.1⟩

end ResourceServer.Resource
