/-
Laws of `Covers`, the relation between a path pattern and a path as lists of segments.

A pattern falls into parts without `**`, which are `Aligned` with segments one by one, and the `**` between them.
- `covers_append`: a pattern in two parts covers a path in two parts.
- `covers_aligned_front`, `covers_aligned_back`: aligned segments at either end can be taken off.
- `covers_run`: a part between two `**` can be taken from the path where it fits first. This is why a search from the
  front never has to go back.
- `not_covers_of_no_fit`: a part between two `**` that fits nowhere refuses the path.
-/
import Mathlib.Tactic
import ResourceServer.Glob.Path

namespace ResourceServer.Glob

/-- segment patterns other than `**` that match segments one by one -/
def Aligned (pattern path : List Text) : Prop :=
  List.Forall₂ (fun p s => p ≠ doubleStar ∧ segmentMatches p s = true) pattern path

/-! ## One segment pattern at a time -/

theorem covers_nil_iff {path : List Text} : Covers [] path ↔ path = [] := by
  constructor
  · intro h; cases h; rfl
  · rintro rfl; exact .nil

theorem covers_double_iff {pattern path : List Text} :
    Covers (doubleStar :: pattern) path ↔ ∃ skipped rest, path = skipped ++ rest ∧ Covers pattern rest := by
  constructor
  · intro h
    cases h with
    | double h => exact ⟨_, _, rfl, h⟩
    | one hp _ _ => exact absurd rfl hp
  · rintro ⟨skipped, rest, rfl, h⟩; exact .double h

theorem covers_one_iff {p : Text} {pattern path : List Text} (hp : p ≠ doubleStar) :
    Covers (p :: pattern) path ↔ ∃ s rest, path = s :: rest ∧ segmentMatches p s = true ∧ Covers pattern rest := by
  constructor
  · intro h
    cases h with
    | double _ => exact absurd rfl hp
    | one _ hm h => exact ⟨_, _, rfl, hm, h⟩
  · rintro ⟨s, rest, rfl, hm, h⟩; exact .one hp hm h

/-- only `**` covers the empty path -/
theorem covers_empty_iff {pattern : List Text} : Covers pattern [] ↔ ∀ p ∈ pattern, p = doubleStar := by
  induction pattern with
  | nil => simp [covers_nil_iff]
  | cons p pattern ih =>
    by_cases hp : p = doubleStar
    · subst hp
      rw [covers_double_iff]
      simp [← ih]
    · rw [covers_one_iff hp]
      simp [hp]

/-- a pattern that starts with `**` also covers a longer path -/
theorem covers_double_extend {pattern path : List Text} (front : List Text) (h : Covers (doubleStar :: pattern) path) :
    Covers (doubleStar :: pattern) (front ++ path) := by
  obtain ⟨skipped, rest, rfl, hc⟩ := covers_double_iff.1 h
  exact covers_double_iff.2 ⟨front ++ skipped, rest, by simp, hc⟩

/-- two `**` in a row are one -/
theorem covers_double_double_iff {pattern path : List Text} :
    Covers (doubleStar :: doubleStar :: pattern) path ↔ Covers (doubleStar :: pattern) path := by
  constructor
  · intro h
    obtain ⟨skipped, rest, rfl, hc⟩ := covers_double_iff.1 h
    exact covers_double_extend skipped hc
  · intro h; exact covers_double_iff.2 ⟨[], path, rfl, h⟩

/-! ## Parts of a pattern -/

theorem covers_append {front back path : List Text} :
    Covers (front ++ back) path ↔ ∃ a b, path = a ++ b ∧ Covers front a ∧ Covers back b := by
  induction front generalizing path with
  | nil => simp [covers_nil_iff]
  | cons p front ih =>
    by_cases hp : p = doubleStar
    · subst hp
      simp only [List.cons_append, covers_double_iff, ih]
      constructor
      · rintro ⟨skipped, _, rfl, a, b, rfl, ha, hb⟩
        exact ⟨skipped ++ a, b, by simp, ⟨skipped, a, rfl, ha⟩, hb⟩
      · rintro ⟨_, b, rfl, ⟨skipped, a, rfl, ha⟩, hb⟩
        exact ⟨skipped, a ++ b, by simp, a, b, rfl, ha, hb⟩
    · simp only [List.cons_append, covers_one_iff hp, ih]
      constructor
      · rintro ⟨s, _, rfl, hm, a, b, rfl, ha, hb⟩
        exact ⟨s :: a, b, rfl, ⟨s, a, rfl, hm, ha⟩, hb⟩
      · rintro ⟨_, b, rfl, ⟨s, a, rfl, hm, ha⟩, hb⟩
        exact ⟨s, a ++ b, rfl, hm, a, b, rfl, ha, hb⟩

theorem Aligned.length_eq {pattern path : List Text} (h : Aligned pattern path) : pattern.length = path.length :=
  List.Forall₂.length_eq h

theorem Aligned.not_double {pattern path : List Text} (h : Aligned pattern path) : doubleStar ∉ pattern := by
  induction h with
  | nil => simp
  | cons hp _ ih =>
    rw [List.mem_cons, not_or]
    exact ⟨fun e => hp.1 e.symm, ih⟩

/-- without `**` a pattern covers just what it is aligned with -/
theorem covers_iff_aligned {pattern path : List Text} (h : doubleStar ∉ pattern) :
    Covers pattern path ↔ Aligned pattern path := by
  induction pattern generalizing path with
  | nil => rw [covers_nil_iff, Aligned, List.forall₂_nil_left_iff]
  | cons p pattern ih =>
    rw [List.mem_cons, not_or] at h
    have hp : p ≠ doubleStar := fun e => h.1 e.symm
    rw [covers_one_iff hp, Aligned, List.forall₂_cons_left_iff]
    constructor
    · rintro ⟨s, rest, rfl, hm, hc⟩; exact ⟨s, rest, ⟨hp, hm⟩, (ih h.2).1 hc, rfl⟩
    · rintro ⟨s, rest, ⟨_, hm⟩, ha, rfl⟩; exact ⟨s, rest, rfl, hm, (ih h.2).2 ha⟩

theorem Aligned.covers {pattern path : List Text} (h : Aligned pattern path) : Covers pattern path :=
  (covers_iff_aligned h.not_double).2 h

theorem Aligned.concat {pattern path : List Text} {p s : Text} (h : Aligned pattern path) (hp : p ≠ doubleStar)
    (hm : segmentMatches p s = true) : Aligned (pattern ++ [p]) (path ++ [s]) :=
  List.rel_append h (.cons ⟨hp, hm⟩ .nil)

/-- aligned segments can be taken off at the front -/
theorem covers_aligned_front {front a pattern path : List Text} (h : Aligned front a) :
    Covers (front ++ pattern) (a ++ path) ↔ Covers pattern path := by
  rw [covers_append]
  constructor
  · rintro ⟨b, rest, hab, hb, hc⟩
    have hlen := ((covers_iff_aligned h.not_double).1 hb).length_eq.symm.trans h.length_eq
    obtain ⟨-, rfl⟩ := List.append_inj hab hlen.symm
    exact hc
  · intro hc; exact ⟨a, path, rfl, h.covers, hc⟩

/-- aligned segments can be taken off at the back -/
theorem covers_aligned_back {back b pattern path : List Text} (h : Aligned back b) :
    Covers (pattern ++ back) (path ++ b) ↔ Covers pattern path := by
  rw [covers_append]
  constructor
  · rintro ⟨rest, c, hbc, hc, hb⟩
    have hlen := ((covers_iff_aligned h.not_double).1 hb).length_eq.symm.trans h.length_eq
    obtain ⟨rfl, -⟩ := List.append_inj' hbc hlen.symm
    exact hc
  · intro hc; exact ⟨path, b, rfl, hc, h.covers⟩

/-! ## The part between two `**` -/

/-- a part of a pattern fits a path from a position on -/
def FitsAt (run path : List Text) (k : ℕ) : Prop := Aligned run ((path.drop k).take run.length)

theorem covers_double_append_iff {run pattern path : List Text} (hrun : doubleStar ∉ run) :
    Covers (doubleStar :: (run ++ pattern)) path ↔
      ∃ k, FitsAt run path k ∧ Covers pattern (path.drop (k + run.length)) := by
  rw [covers_double_iff]
  constructor
  · rintro ⟨skipped, rest, rfl, h⟩
    obtain ⟨a, b, rfl, ha, hb⟩ := covers_append.1 h
    have ha' := (covers_iff_aligned hrun).1 ha
    refine ⟨skipped.length, ?_, ?_⟩
    · rw [FitsAt, List.drop_left, ha'.length_eq, List.take_left]
      exact ha'
    · rw [ha'.length_eq, ← List.append_assoc, ← List.length_append, List.drop_left]
      exact hb
  · rintro ⟨k, hfit, h⟩
    refine ⟨path.take k, path.drop k, (List.take_append_drop k path).symm, ?_⟩
    refine covers_append.2 ⟨(path.drop k).take run.length, (path.drop k).drop run.length, ?_, ?_, ?_⟩
    · exact (List.take_append_drop _ _).symm
    · exact Aligned.covers hfit
    · rwa [List.drop_drop]

/-- **Greedy choice.** A part between two `**` can be taken from the path where it fits first: what any later fit leaves
to the second `**` is an end of what the first fit leaves to it. -/
theorem covers_run {run pattern path : List Text} {k : ℕ} (hfit : FitsAt run path k)
    (hfirst : ∀ j < k, ¬ FitsAt run path j) :
    Covers (doubleStar :: (run ++ doubleStar :: pattern)) path ↔
      Covers (doubleStar :: pattern) (path.drop (k + run.length)) := by
  rw [covers_double_append_iff (Aligned.not_double hfit)]
  constructor
  · rintro ⟨j, hj, h⟩
    have hkj : k ≤ j := by
      by_contra hlt; exact hfirst j (by omega) hj
    have hlater : path.drop (j + run.length) = (path.drop (k + run.length)).drop (j - k) := by
      rw [List.drop_drop]; congr 1; omega
    rw [← List.take_append_drop (j - k) (path.drop (k + run.length)), ← hlater]
    exact covers_double_extend _ h
  · intro h; exact ⟨k, hfit, h⟩

theorem not_covers_of_no_fit {run pattern path : List Text} (hrun : doubleStar ∉ run)
    (hno : ∀ k, ¬ FitsAt run path k) : ¬ Covers (doubleStar :: (run ++ pattern)) path := by
  rw [covers_double_append_iff hrun]
  rintro ⟨k, hfit, -⟩; exact hno k hfit

end ResourceServer.Glob
