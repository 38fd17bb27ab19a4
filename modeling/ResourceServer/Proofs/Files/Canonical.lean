/-
Where following a path ends.

`FileTree.Direct` says that a place is named without detours: each of its names is a proper one, what lies above it are
directories, and no link is met. `canonical_direct`: every path that can be followed leads to such a place, so that a
place is below another one only if it lies in that directory.
-/
import ResourceServer.Proofs.Text.Pieces
import ResourceServer.Files.Tree

namespace ResourceServer.Files

/-- names that stand for themselves -/
structure ProperName (name : Text) : Prop where
  nonempty : name ≠ []
  not_here : name ≠ ['.']
  not_up : name ≠ ['.', '.']
  no_slash : '/' ∉ name

namespace FileTree

/-- places named without dots and links -/
inductive Direct (tree : FileTree) : FilePath → Prop where
  | root : Direct tree []
  | entry {p : FilePath} {name : Text} : Direct tree p → tree.node? p = some .directory → ProperName name →
      (∀ target, tree.node? (p ++ [name]) ≠ some (.link target)) → Direct tree (p ++ [name])

variable {tree : FileTree} {p q : FilePath}

theorem Direct.dropLast (h : tree.Direct p) : tree.Direct p.dropLast := by
  cases h with
  | root => exact .root
  | entry h => rwa [List.dropLast_concat]

/-- the places and names of a trail are fit to go on from -/
def Trail.Fit (tree : FileTree) : Trail → Prop
  | .arrived p => tree.Direct p
  | .broken _ => True
  | .atLink p _ rest => tree.Direct p ∧ ∀ n ∈ rest, '/' ∉ n

theorem followNames_fit (h : tree.Direct p) {names : List Text} (hnames : ∀ n ∈ names, '/' ∉ n) :
    (tree.followNames p names).Fit tree := by
  induction names generalizing p with
  | nil => exact h
  | cons name rest ih =>
    have hrest : ∀ n ∈ rest, '/' ∉ n := fun n hn => hnames n (List.mem_cons_of_mem _ hn)
    rw [followNames]
    split_ifs with hdir hhere hup hlong
    · trivial
    · exact ih h hrest
    · exact ih h.dropLast hrest
    · trivial
    · have hproper : ProperName name :=
        ⟨fun e => hhere (.inl e), fun e => hhere (.inr e), hup, hnames name List.mem_cons_self⟩
      cases hnode : tree.node? (p ++ [name]) with
      | none => trivial
      | some node =>
        cases node with
        | link target => exact ⟨h, hrest⟩
        | directory => exact ih (.entry h (not_not.1 hdir) hproper (by simp [hnode])) hrest
        | file content => exact ih (.entry h (not_not.1 hdir) hproper (by simp [hnode])) hrest

theorem direct_base (h : tree.Direct p) (path : Text) : tree.Direct (base p path) := by
  rw [base]
  split_ifs
  · exact .root
  · exact h

theorem followLinks_eq (links : ℕ) (p : FilePath) (names : List Text) :
    tree.followLinks links p names =
      match tree.followNames p names with
      | .arrived q => .ok q
      | .broken f => .error f
      | .atLink q target rest =>
        match links with
        | 0 => .error .linkLoop
        | links + 1 => tree.followLinks links (base q target) (Text.pieces target ++ rest) :=
  followLinks.eq_def tree links p names

/-- the last stretch arrives, and any earlier one ends at a link -/
theorem followLinks_cases {links : ℕ} {names : List Text} (hq : tree.followLinks links p names = .ok q) :
    tree.followNames p names = .arrived q ∨
      ∃ left place target rest, links = left + 1 ∧ tree.followNames p names = .atLink place target rest ∧
        tree.followLinks left (base place target) (Text.pieces target ++ rest) = .ok q := by
  rw [followLinks_eq] at hq
  cases htrail : tree.followNames p names with
  | arrived place =>
    rw [htrail] at hq
    cases hq; exact .inl rfl
  | broken f => rw [htrail] at hq; cases hq
  | atLink place target rest =>
    rw [htrail] at hq
    cases links with
    | zero => cases hq
    | succ left => exact .inr ⟨left, place, target, rest, rfl, rfl, hq⟩

theorem followLinks_direct (h : tree.Direct p) {links : ℕ} {names : List Text} (hnames : ∀ n ∈ names, '/' ∉ n)
    (hq : tree.followLinks links p names = .ok q) : tree.Direct q := by
  induction links using Nat.strongRecOn generalizing p names with
  | ind links ih =>
    have hfit := followNames_fit h hnames
    rcases followLinks_cases hq with harrived | ⟨left, place, target, rest, rfl, hlink, hleft⟩
    · rw [harrived] at hfit
      exact hfit
    · rw [hlink] at hfit
      obtain ⟨hplace, hrest⟩ := hfit
      refine ih left (Nat.lt_succ_self left) (direct_base hplace target) (fun n hn => ?_) hleft
      rcases List.mem_append.1 hn with hn | hn
      · exact Text.not_slash_of_mem_pieces hn
      · exact hrest n hn

/-- **Following a path takes out dots and links**, however many of them lie on the way -/
theorem canonical_direct (h : tree.Direct tree.workingDirectory) {path : Text} (hq : tree.canonical path = .ok q) :
    tree.Direct q := by
  rw [canonical] at hq
  split at hq
  · cases hq
  · exact followLinks_direct (direct_base h path) (fun n hn => Text.not_slash_of_mem_pieces hn) hq

theorem nodeAt?_eq_some_iff {path : Text} {n : Node} :
    tree.nodeAt? path = some n ↔ ∃ p, tree.canonical path = .ok p ∧ tree.node? p = some n := by
  rw [nodeAt?]
  cases tree.canonical path <;> simp

end FileTree

end ResourceServer.Files
