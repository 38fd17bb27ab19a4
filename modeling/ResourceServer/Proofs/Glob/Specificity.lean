/-
The order in which patterns that match a path are preferred.

The rank is one lexicographic order of eight counts, each of them ordered on its own, and the last one is the text
itself. So it orders the patterns linearly, for every path, and at most one of those that match ranks before the others.
- The instances of `Std.TransCmp` and `Std.LawfulEqCmp` state the order, `comparePatterns_total` that it is total.
- `eq_mergeSort_iff`: patterns have one sorted arrangement, in whatever order they come.
- `MostSpecific`: the pattern matches and ranks before every other one that does. There is one at most
  (`MostSpecific.eq`), and it does not depend on the order of the patterns (`mostSpecific_congr`).
- `comparePatterns_path`: the pattern that is the path itself ranks before every other one.
-/
import Mathlib.Tactic
import ResourceServer.Glob.Specificity

namespace ResourceServer.Glob

open Specificity

variable {path pattern other : Text} {patterns arranged : List Text}

/-! ## The rank as an order -/

instance : Std.TransCmp orderFlag := inferInstanceAs (Std.TransCmp (compareOn Bool.toNat))

/-- an order of keys orders what has the keys -/
theorem transCmp_on {α κ : Type} (cmp : κ → κ → Ordering) [Std.TransCmp cmp] (key : α → κ) :
    Std.TransCmp fun a b => cmp (key a) (key b) where
  eq_swap := Std.OrientedCmp.eq_swap
  isLE_trans := Std.TransCmp.isLE_trans

/-- the rank goes through its counts one by one -/
theorem compare_eq_compareLex (path : Text) :
    Specificity.compare path =
      compareLex (fun a b => orderFlag a.catchAll b.catchAll) (
      compareLex (fun a b => orderFlag (a.pattern != path) (b.pattern != path)) (
      compareLex (fun a b => orderFlag a.underSlash b.underSlash) (
      compareLex (compareOn wildcards) (
      compareLex (fun a b => compareOn Specificity.length b a) (
      compareLex (compareOn singleStars) (
      compareLex (compareOn variableCount) fun a b => Text.order a.pattern b.pattern)))))) := rfl

instance (path : Text) : Std.TransCmp (Specificity.compare path) := by
  have hcatchAll := transCmp_on orderFlag Specificity.catchAll
  have hpath := transCmp_on orderFlag fun s : Specificity => s.pattern != path
  have hunder := transCmp_on orderFlag Specificity.underSlash
  have hlength : Std.TransCmp fun a b => compareOn Specificity.length b a := Std.TransCmp.opposite
  have htext := transCmp_on Text.order Specificity.pattern
  rw [compare_eq_compareLex]
  infer_instance

instance (path : Text) : Std.TransCmp (comparePatterns path) :=
  transCmp_on (Specificity.compare path) Specificity.of

/-- only equal texts rank equal -/
instance (path : Text) : Std.LawfulEqCmp (comparePatterns path) where
  compare_self := Std.ReflCmp.compare_self
  eq_of_compare {a b} h := by
    simp only [comparePatterns, Specificity.compare, Ordering.then_eq_eq, Text.order_eq_iff] at h
    exact h.2.2.2.2.2.2.2

theorem comparePatterns_swap (path a b : Text) : comparePatterns path a b = (comparePatterns path b a).swap :=
  Std.OrientedCmp.eq_swap

theorem comparePatterns_antisymm (h₁ : (comparePatterns path pattern other).isLE = true)
    (h₂ : (comparePatterns path other pattern).isLE = true) : pattern = other :=
  Std.LawfulEqCmp.eq_of_compare (Std.OrientedCmp.isLE_antisymm h₁ h₂)

theorem comparePatterns_total (path a b : Text) :
    (comparePatterns path a b).isLE = true ∨ (comparePatterns path b a).isLE = true := by
  rw [comparePatterns_swap path b a]
  cases comparePatterns path a b
  · exact .inl rfl
  · exact .inl rfl
  · exact .inr rfl

/-- of two different patterns, the one that does not rank behind ranks before -/
theorem comparePatterns_lt_of_isLE (h : (comparePatterns path pattern other).isLE = true) (hne : other ≠ pattern) :
    comparePatterns path pattern other = .lt := by
  rcases Ordering.isLE_iff_eq_lt_or_eq_eq.1 h with hlt | heq
  · exact hlt
  · exact absurd (Std.LawfulEqCmp.eq_of_compare heq).symm hne

/-! ## Sorting -/

/-- patterns have one sorted arrangement -/
theorem eq_mergeSort_iff (path : Text) :
    arranged = patterns.mergeSort (fun a b => (comparePatterns path a b).isLE) ↔
      arranged.Perm patterns ∧ arranged.Pairwise fun a b => (comparePatterns path a b).isLE = true := by
  have hsorted : (patterns.mergeSort fun a b => (comparePatterns path a b).isLE).Pairwise
      fun a b => (comparePatterns path a b).isLE = true :=
    List.pairwise_mergeSort (fun _ _ _ => Std.TransCmp.isLE_trans)
      (fun a b => by rw [Bool.or_eq_true]; exact comparePatterns_total path a b) patterns
  constructor
  · rintro rfl
    exact ⟨List.mergeSort_perm _ _, hsorted⟩
  · rintro ⟨hperm, harranged⟩
    exact List.Perm.eq_of_pairwise (fun _ _ _ _ => comparePatterns_antisymm) harranged hsorted
      (hperm.trans (List.mergeSort_perm _ _).symm)

/-! ## The most specific pattern -/

/-- the pattern is one of those that match the path, and ranks before every other one of them -/
structure MostSpecific (patterns : List Text) (path pattern : Text) : Prop where
  mem : pattern ∈ patterns
  accepts : pathMatches pattern path = true
  first : ∀ other ∈ patterns, pathMatches other path = true → other ≠ pattern → comparePatterns path pattern other = .lt

theorem MostSpecific.eq (h : MostSpecific patterns path pattern) (h' : MostSpecific patterns path other) :
    pattern = other := by
  by_contra hne
  have hlt := h.first other h'.mem h'.accepts (Ne.symm hne)
  have hgt := h'.first pattern h.mem h.accepts hne
  rw [comparePatterns_swap, hgt] at hlt
  cases hlt

/-- which patterns there are decides, and not their order -/
theorem mostSpecific_congr {patterns' : List Text} (h : ∀ k, k ∈ patterns ↔ k ∈ patterns') :
    MostSpecific patterns path pattern ↔ MostSpecific patterns' path pattern := by
  constructor
  · exact fun hp => ⟨(h _).1 hp.mem, hp.accepts, fun other hin => hp.first other ((h _).2 hin)⟩
  · exact fun hp => ⟨(h _).2 hp.mem, hp.accepts, fun other hin => hp.first other ((h _).1 hin)⟩

theorem orderFlag_false_true : orderFlag false true = .lt := rfl

/-- the path itself ranks first among patterns, unless it reads as the catch-all -/
theorem comparePatterns_path (hpath : path ≠ catchAllPattern) (hother : other ≠ path) :
    comparePatterns path path other = .lt := by
  have hc : (Specificity.of path).catchAll = false := by simpa [Specificity.of] using hpath
  have hp : ((Specificity.of path).pattern != path) = false := by simp [Specificity.of]
  have ho : ((Specificity.of other).pattern != path) = true := by simpa [Specificity.of] using hother
  rw [comparePatterns, Specificity.compare, hc, hp, ho, orderFlag_false_true]
  cases (Specificity.of other).catchAll <;> rfl

end ResourceServer.Glob
