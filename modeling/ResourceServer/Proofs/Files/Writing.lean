/-
Writing to a file, and reading it again.

Reading follows a path to its end, and writing follows it to the directory of its last name and goes on from there.
Where the path leads to a file, both come to the same place.
- `node?_put`: what a tree holds after a node is put into it.
- `canonical_congr`: trees with the same directories and links, and files at the same places, are followed alike.
- `followLinks_last`: how the last name of a path leads to a file.
- `writePlace_eq`, `exists_writePlace`: writing puts the content where reading finds the file.
- `read_write`: what is written to a file that can be read is what is read then.
- `exists_write`: a file that can be read can be written, if the working directory is named without detours.
-/
import ResourceServer.Proofs.Files.Canonical

namespace ResourceServer.Files

/-- what following a path sees of a node: all but the content of a file -/
def Node.outline : Node → Node
  | .directory => .directory
  | .file _ => .file []
  | .link target => .link target

namespace FileTree

variable {tree tree' : FileTree} {p q r : FilePath} {name : Text} {names : List Text} {path content old : Text}

/-! ## A node that is put -/

theorem lookup_map_put (nodes : List (FilePath × Node)) (p q : FilePath) (n : Node) :
    (nodes.map fun entry => if entry.1 == p then (p, n) else entry).lookup q =
      if q = p then (nodes.lookup q).map (fun _ => n) else nodes.lookup q := by
  induction nodes with
  | nil => simp
  | cons entry nodes ih =>
    rw [List.map_cons, Text.lookup_cons, Text.lookup_cons, ih]
    by_cases hq : q = p
    · subst hq
      by_cases hplace : entry.1 = q
      · simp [hplace]
      · simp [hplace, Ne.symm hplace]
    · by_cases hplace : entry.1 = p
      · subst hplace
        simp [hq]
      · simp [hplace, hq]

/-- a node below the root that is put replaces what was there, and nothing else -/
theorem node?_put (hp : p ≠ []) (n : Node) (q : FilePath) :
    (tree.put p n).node? q = if q = p then some n else tree.node? q := by
  by_cases hroot : q = []
  · subst hroot
    rw [if_neg (Ne.symm hp), node?, node?, if_pos rfl, if_pos rfl]
  · rw [node?, node?, if_neg hroot, if_neg hroot, put]
    by_cases hany : tree.nodes.any (·.1 == p) = true
    · rw [if_pos hany]
      dsimp only
      rw [lookup_map_put]
      by_cases hq : q = p
      · subst hq
        obtain ⟨entry, hentry, hplace⟩ := List.any_eq_true.1 hany
        cases hlookup : tree.nodes.lookup q with
        | some node => rw [if_pos rfl, if_pos rfl, Option.map_some]
        | none => exact absurd (beq_iff_eq.1 hplace) (Text.lookup_eq_none_iff.1 hlookup entry hentry)
      · rw [if_neg hq, if_neg hq]
    · rw [if_neg hany]
      dsimp only
      rw [Text.lookup_concat]
      by_cases hq : q = p
      · subst hq
        have hnone : tree.nodes.lookup q = none := by
          rw [Text.lookup_eq_none_iff]
          intro entry hentry hplace
          exact hany (List.any_eq_true.2 ⟨entry, hentry, beq_iff_eq.2 hplace⟩)
        rw [hnone, Option.none_or]
      · rw [if_neg hq, if_neg hq, Option.or_none]

theorem put_workingDirectory (tree : FileTree) (p : FilePath) (n : Node) :
    (tree.put p n).workingDirectory = tree.workingDirectory := by
  rw [put]
  split_ifs <;> rfl

/-! ## Trees that lead alike -/

section Alike

variable (h : ∀ q, (tree'.node? q).map Node.outline = (tree.node? q).map Node.outline)
include h

theorem node?_eq_directory_iff (q : FilePath) : tree'.node? q = some .directory ↔ tree.node? q = some .directory := by
  have hq := h q
  cases hn : tree.node? q with
  | none =>
    rw [hn] at hq
    rw [Option.map_eq_none_iff.1 hq]
  | some n =>
    rw [hn] at hq
    obtain ⟨n', hn', houtline⟩ := Option.map_eq_some_iff.1 hq
    rw [hn']
    cases n <;> cases n' <;> simp_all [Node.outline]

theorem followNames_congr (p : FilePath) (names : List Text) :
    tree'.followNames p names = tree.followNames p names := by
  induction names generalizing p with
  | nil => rfl
  | cons name rest ih =>
    rw [followNames, followNames]
    simp only [ne_eq, node?_eq_directory_iff h]
    split_ifs with hdir hhere hup hlong
    · exact ih p
    · exact ih p.dropLast
    · rfl
    · have hq := h (p ++ [name])
      cases hn : tree.node? (p ++ [name]) with
      | none =>
        rw [hn] at hq
        rw [Option.map_eq_none_iff.1 hq]
      | some n =>
        rw [hn] at hq
        obtain ⟨n', hn', houtline⟩ := Option.map_eq_some_iff.1 hq
        rw [hn']
        cases n <;> cases n' <;> simp_all [Node.outline]
    · rfl

theorem followLinks_congr (links : ℕ) (p : FilePath) (names : List Text) :
    tree'.followLinks links p names = tree.followLinks links p names := by
  induction links generalizing p names with
  | zero => rw [followLinks_eq, followLinks_eq, followNames_congr h]
  | succ links ih =>
    rw [followLinks_eq, followLinks_eq, followNames_congr h]
    cases tree.followNames p names with
    | arrived q => rfl
    | broken f => rfl
    | atLink q target rest => exact ih _ _

/-- **Contents do not matter** to where a path leads -/
theorem canonical_congr (hw : tree'.workingDirectory = tree.workingDirectory) (path : Text) :
    tree'.canonical path = tree.canonical path := by
  rw [canonical, canonical, followLinks_congr h, hw]

end Alike

/-- a file with a new content -/
theorem outline_put (hfile : tree.node? p = some (.file old)) (q : FilePath) :
    ((tree.put p (.file content)).node? q).map Node.outline = (tree.node? q).map Node.outline := by
  have hp : p ≠ [] := by
    rintro rfl
    rw [node?, if_pos rfl] at hfile
    cases hfile
  rw [node?_put hp]
  split_ifs with hq
  · rw [hq, hfile]
    rfl
  · rfl

/-! ## The last name -/

theorem followNames_append (p : FilePath) (names more : List Text) :
    tree.followNames p (names ++ more) =
      match tree.followNames p names with
      | .arrived q => tree.followNames q more
      | .broken f => .broken f
      | .atLink place target rest => .atLink place target (rest ++ more) := by
  induction names generalizing p with
  | nil => rfl
  | cons name names ih =>
    rw [List.cons_append, followNames, followNames]
    split_ifs with hdir hhere hup hlong
    · rfl
    · exact ih p
    · exact ih p.dropLast
    · rfl
    · cases tree.node? (p ++ [name]) with
      | none => rfl
      | some n =>
        cases n with
        | directory => exact ih (p ++ [name])
        | file content => exact ih (p ++ [name])
        | link target => rfl

theorem followLinks_of_arrived {links : ℕ} (h : tree.followNames p names = .arrived q) :
    tree.followLinks links p names = .ok q := by
  rw [followLinks_eq, h]

theorem followLinks_of_atLink {links : ℕ} {place : FilePath} {target : Text} {rest : List Text}
    (h : tree.followNames p names = .atLink place target rest) :
    tree.followLinks (links + 1) p names = tree.followLinks links (base place target) (Text.pieces target ++ rest) := by
  rw [followLinks_eq, h]

/-- names are followed one stretch after the other -/
theorem followLinks_append {links : ℕ} {more : List Text} (h : tree.followLinks links p (names ++ more) = .ok q) :
    ∃ left r, left ≤ links ∧ tree.followLinks links p names = .ok r ∧ tree.followLinks left r more = .ok q := by
  induction links using Nat.strongRecOn generalizing p names with
  | ind links ih =>
    rcases followLinks_cases h with harrived | ⟨left, place, target, rest, rfl, hlink, hleft⟩
    · rw [followNames_append] at harrived
      cases htrail : tree.followNames p names with
      | arrived r =>
        rw [htrail] at harrived
        exact ⟨links, r, le_rfl, followLinks_of_arrived htrail, followLinks_of_arrived harrived⟩
      | broken f => rw [htrail] at harrived; cases harrived
      | atLink place target rest => rw [htrail] at harrived; cases harrived
    · have hlink' := hlink
      rw [followNames_append] at hlink
      cases htrail : tree.followNames p names with
      | arrived r =>
        rw [htrail] at hlink
        refine ⟨left + 1, r, le_rfl, followLinks_of_arrived htrail, ?_⟩
        rw [followLinks_of_atLink hlink, hleft]
      | broken f => rw [htrail] at hlink; cases hlink
      | atLink place' target' rest' =>
        rw [htrail] at hlink
        cases hlink
        rw [← List.append_assoc] at hleft
        obtain ⟨left', r, hle, hfront, hmore⟩ := ih left (Nat.lt_succ_self left) hleft
        refine ⟨left', r, hle.trans (Nat.le_succ left), ?_, hmore⟩
        rw [followLinks_of_atLink htrail, hfront]

/-- with more links to spare, a path leads to the same place -/
theorem followLinks_mono {links more : ℕ} (hle : links ≤ more) (h : tree.followLinks links p names = .ok q) :
    tree.followLinks more p names = .ok q := by
  induction links using Nat.strongRecOn generalizing p names more with
  | ind links ih =>
    rcases followLinks_cases h with harrived | ⟨left, place, target, rest, rfl, hlink, hleft⟩
    · exact followLinks_of_arrived harrived
    · obtain ⟨more, rfl⟩ : ∃ m, more = m + 1 := ⟨more - 1, by omega⟩
      rw [followLinks_of_atLink hlink]
      exact ih left (Nat.lt_succ_self left) (Nat.le_of_succ_le_succ hle) hleft

/-- a name that writing takes for that of a file -/
structure Writable (name : Text) : Prop where
  proper : ¬ (name = [] ∨ name = ['.'] ∨ name = ['.', '.'])
  short : longName name = false

/-- how the last of the names behind a directory leads to a file: up, which no tree made step by step allows, or by its
own name or that of a link -/
inductive LastName (tree : FileTree) (links : ℕ) (r : FilePath) (name : Text) (q : FilePath) : Prop where
  | up : name = ['.', '.'] → q = r.dropLast → LastName tree links r name q
  | file {content : Text} : Writable name → tree.node? (r ++ [name]) = some (.file content) → q = r ++ [name] →
      LastName tree links r name q
  | link {left : ℕ} {target : Text} : Writable name → tree.node? (r ++ [name]) = some (.link target) →
      links = left + 1 → tree.followLinks left (base r target) (Text.pieces target) = .ok q →
      LastName tree links r name q

/-- **The last name of a path to a file** stands in a directory -/
theorem followLinks_last {links : ℕ} (hq : tree.followLinks links r [name] = .ok q)
    (hfile : tree.node? q = some (.file old)) : tree.node? r = some .directory ∧ LastName tree links r name q := by
  rw [followLinks_eq, followNames] at hq
  by_cases hdir : tree.node? r = some .directory
  · rw [if_neg (not_not.2 hdir)] at hq
    refine ⟨hdir, ?_⟩
    by_cases hhere : name = [] ∨ name = ['.']
    · -- the directory itself is no file
      rw [if_pos hhere, followNames] at hq
      cases hq
      rw [hdir] at hfile
      cases hfile
    · rw [if_neg hhere] at hq
      by_cases hup : name = ['.', '.']
      · rw [if_pos hup, followNames] at hq
        cases hq
        exact .up hup rfl
      · rw [if_neg hup] at hq
        by_cases hlong : longName name = true
        · rw [if_pos hlong] at hq
          cases hq
        · rw [if_neg hlong] at hq
          have hwritable : Writable name :=
            ⟨fun h => hhere (h.imp_right fun h => h.resolve_right hup), Bool.eq_false_iff.2 hlong⟩
          cases hnode : tree.node? (r ++ [name]) with
          | none =>
            rw [hnode] at hq
            cases hq
          | some node =>
            rw [hnode] at hq
            cases node with
            | directory =>
              cases hq
              rw [hnode] at hfile
              cases hfile
            | file content =>
              cases hq
              exact .file hwritable hnode rfl
            | link target =>
              cases links with
              | zero => cases hq
              | succ left =>
                dsimp only at hq
                rw [List.append_nil] at hq
                exact .link hwritable hnode rfl hq
  · rw [if_pos hdir] at hq
    cases hq

/-! ## Where writing goes -/

theorem writePlace_eq_match (links : ℕ) (p : FilePath) (names : List Text) :
    tree.writePlace links p names =
      match tree.parentOf linkLimit p names with
      | .error f => .error f
      | .ok (q, name) =>
        if name = [] ∨ name = ['.'] ∨ name = ['.', '.'] then .error .isDirectory
        else if longName name then .error .tooLong
        else
          match tree.node? (q ++ [name]) with
          | some .directory => .error .isDirectory
          | some (.link target) =>
            match links with
            | 0 => .error .linkLoop
            | links + 1 => tree.writePlace links (base q target) (Text.pieces target)
          | _ => .ok (q ++ [name]) :=
  writePlace.eq_def tree links p names

theorem parentOf_concat {links : ℕ} (h : tree.followLinks links p names = .ok r)
    (hdir : tree.node? r = some .directory) (name : Text) :
    tree.parentOf links p (names ++ [name]) = .ok (r, name) := by
  rw [parentOf, List.getLast?_concat]
  dsimp only
  rw [List.dropLast_concat, h]
  dsimp only
  rw [if_pos hdir]

/-- writing follows all names but the last, and goes on from there -/
theorem writePlace_concat (links : ℕ) (h : tree.followLinks linkLimit p names = .ok r)
    (hdir : tree.node? r = some .directory) (hname : Writable name) :
    tree.writePlace links p (names ++ [name]) =
      match tree.node? (r ++ [name]) with
      | some .directory => .error .isDirectory
      | some (.link target) =>
        match links with
        | 0 => .error .linkLoop
        | links + 1 => tree.writePlace links (base r target) (Text.pieces target)
      | _ => .ok (r ++ [name]) := by
  rw [writePlace_eq_match, parentOf_concat h hdir]
  dsimp only
  rw [if_neg hname.proper, if_neg (Bool.eq_false_iff.1 hname.short)]

/-- writing does not end with a step up -/
theorem writePlace_up (links : ℕ) (h : tree.followLinks linkLimit p names = .ok r)
    (hdir : tree.node? r = some .directory) :
    tree.writePlace links p (names ++ [['.', '.']]) = .error .isDirectory := by
  rw [writePlace_eq_match, parentOf_concat h hdir]
  dsimp only
  rw [if_pos (.inr (.inr rfl))]

/-- **Writing goes where reading goes**, if it goes anywhere -/
theorem writePlace_eq {links spare : ℕ} {q' : FilePath} (hlimit : links ≤ linkLimit)
    (hq : tree.followLinks links p names = .ok q) (hfile : tree.node? q = some (.file old))
    (hq' : tree.writePlace spare p names = .ok q') : q' = q := by
  induction links using Nat.strongRecOn generalizing p names spare with
  | ind links ih =>
    rcases List.eq_nil_or_concat' names with rfl | ⟨front, name, rfl⟩
    · rw [writePlace_eq_match] at hq'
      cases hq'
    · obtain ⟨left, r, hle, hfront, hlast⟩ := followLinks_append hq
      have hr : tree.followLinks linkLimit p front = .ok r := followLinks_mono hlimit hfront
      obtain ⟨hdir, hhow⟩ := followLinks_last hlast hfile
      cases hhow with
      | up hname _ =>
        rw [hname, writePlace_up spare hr hdir] at hq'
        cases hq'
      | file hname hnode hplace =>
        rw [writePlace_concat spare hr hdir hname, hnode] at hq'
        cases hq'
        exact hplace.symm
      | link hname hnode hlinks hleft =>
        rw [writePlace_concat spare hr hdir hname, hnode] at hq'
        cases spare with
        | zero => cases hq'
        | succ spare => exact ih _ (by omega) (by omega) hleft hq'

/-- it goes there in a tree where what lies above a place is a directory -/
theorem exists_writePlace {links spare : ℕ} (hp : tree.Direct p) (hnames : ∀ n ∈ names, '/' ∉ n) (hne : names ≠ [])
    (hlimit : links ≤ linkLimit) (hspare : links ≤ spare) (hq : tree.followLinks links p names = .ok q)
    (hfile : tree.node? q = some (.file old)) : tree.writePlace spare p names = .ok q := by
  induction links using Nat.strongRecOn generalizing p names spare with
  | ind links ih =>
    obtain ⟨front, name, rfl⟩ : ∃ front name, names = front ++ [name] :=
      ⟨_, _, (List.dropLast_append_getLast hne).symm⟩
    obtain ⟨left, r, hle, hfront, hlast⟩ := followLinks_append hq
    have hr : tree.followLinks linkLimit p front = .ok r := followLinks_mono hlimit hfront
    have hdirect : tree.Direct r := followLinks_direct hp (fun n hn => hnames n (List.mem_append_left _ hn)) hfront
    obtain ⟨hdir, hhow⟩ := followLinks_last hlast hfile
    cases hhow with
    | up _ hplace =>
      exfalso
      cases hdirect with
      | root =>
        rw [hplace, List.dropLast_nil, hdir] at hfile
        cases hfile
      | entry _ hparent _ _ =>
        rw [hplace, List.dropLast_concat, hparent] at hfile
        cases hfile
    | file hname hnode hplace => rw [writePlace_concat spare hr hdir hname, hnode, hplace]
    | link hname hnode hlinks hleft =>
      obtain ⟨spare, rfl⟩ : ∃ m, spare = m + 1 := ⟨spare - 1, by omega⟩
      rw [writePlace_concat _ hr hdir hname, hnode]
      exact ih _ (by omega) (direct_base hdirect _) (fun n hn => Text.not_slash_of_mem_pieces hn)
        (Text.piecesBy_ne_nil _ _) (by omega) (by omega) hleft

/-! ## Reading and writing -/

theorem read_eq_ok_iff :
    tree.read path = .ok content ↔ ∃ p, tree.canonical path = .ok p ∧ tree.node? p = some (.file content) := by
  rw [read]
  cases tree.canonical path with
  | error f => simp
  | ok p =>
    dsimp only
    cases hnode : tree.node? p with
    | none => simp [hnode]
    | some node => cases node <;> simp [hnode]

theorem present_of_read (h : tree.read path = .ok content) : tree.present path = true := by
  obtain ⟨p, hp, hnode⟩ := read_eq_ok_iff.1 h
  rw [present, nodeAt?_eq_some_iff.2 ⟨p, hp, hnode⟩]
  rfl

theorem canonical_eq_ok_iff :
    tree.canonical path = .ok p ↔
      textFault? path = none ∧
        tree.followLinks linkLimit (base tree.workingDirectory path) (Text.pieces path) = .ok p := by
  rw [canonical]
  cases textFault? path <;> simp

/-- **What is written is read.** Writing to a file that can be read leaves its new content to be read -/
theorem read_write (hread : tree.read path = .ok old) (hwrite : tree.write path content = .ok tree') :
    tree'.read path = .ok content := by
  obtain ⟨p, hp, hfile⟩ := read_eq_ok_iff.1 hread
  obtain ⟨htext, hfollow⟩ := canonical_eq_ok_iff.1 hp
  rw [write, htext] at hwrite
  dsimp only at hwrite
  cases hplace : tree.writePlace linkLimit (base tree.workingDirectory path) (Text.pieces path) with
  | error f =>
    rw [hplace] at hwrite
    cases hwrite
  | ok q =>
    rw [hplace] at hwrite
    cases hwrite
    obtain rfl : q = p := writePlace_eq le_rfl hfollow hfile hplace
    have hroot : q ≠ [] := by
      rintro rfl
      rw [node?, if_pos rfl] at hfile
      cases hfile
    have hcanonical : (tree.put q (.file content)).canonical path = tree.canonical path :=
      canonical_congr (outline_put hfile) (put_workingDirectory tree q _) path
    refine read_eq_ok_iff.2 ⟨q, hcanonical.trans hp, ?_⟩
    rw [node?_put hroot, if_pos rfl]

/-- a file that can be read can be written -/
theorem exists_write (hw : tree.Direct tree.workingDirectory) (hread : tree.read path = .ok old) (content : Text) :
    ∃ tree', tree.write path content = .ok tree' := by
  obtain ⟨p, hp, hfile⟩ := read_eq_ok_iff.1 hread
  obtain ⟨htext, hfollow⟩ := canonical_eq_ok_iff.1 hp
  have hplace : tree.writePlace linkLimit (base tree.workingDirectory path) (Text.pieces path) = .ok p :=
    exists_writePlace (direct_base hw path) (fun n hn => Text.not_slash_of_mem_pieces hn) (Text.piecesBy_ne_nil _ _)
      le_rfl le_rfl hfollow hfile
  exact ⟨tree.put p (.file content), by rw [write, htext]; dsimp only; rw [hplace]⟩

end FileTree

end ResourceServer.Files
