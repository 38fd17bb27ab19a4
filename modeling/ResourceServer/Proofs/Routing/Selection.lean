/-
Which pattern is selected for a path.

The search keeps the more specific of two bindings, one after the other. The rank being a linear order, what it keeps is
the most specific of all patterns that match, and the order of the bindings does not show. A mapping looks for the path
itself first; this pattern matches and ranks first, so the shortcut finds what the search would have found.
- `bestMatch?_keys_eq_some_iff`, `bestMatch?_eq_some_iff`: the search finds the most specific pattern.
- `bestMatch?_visits`: so it finds the same in whatever order the bindings are visited.
- `lookup?_eq_bestMatch?`: a mapping finds the same where the path itself, if it is registered, is the most specific
  one.
- `lookup?_mostSpecific`: so it does for every path but `/**`, and a provider with the same patterns selects the same
  one.
- `specificity_linear`: the laws of the rank, and that neither sorting nor a provider depends on the order of visits.
-/
import ResourceServer.Proofs.Glob.Literal
import ResourceServer.Proofs.Glob.Specificity
import ResourceServer.Proofs.Routing.Table
import ResourceServer.PublicUrl.Lookup

namespace ResourceServer.Routing

open Files (FileTree)
open Glob PublicUrl

variable {α : Type} {path q : Text} {entries visits : List (Text × α)} {b : Bindings α} {m : Mapping}

/-! ## The search -/

/-- of two bindings the search keeps one that ranks behind neither -/
theorem moreSpecific_isLE (matcher : PathMatcher) (path : Text) [Std.TransCmp (matcher.compare path)] (a b : Text × α) :
    (matcher.compare path (moreSpecific matcher path a b).1 a.1).isLE = true ∧
      (matcher.compare path (moreSpecific matcher path a b).1 b.1).isLE = true := by
  rw [moreSpecific]
  split_ifs with hgt
  · have hlt : matcher.compare path b.1 a.1 = .lt := Std.OrientedCmp.gt_iff_lt.1 hgt
    exact ⟨by rw [hlt]; rfl, Std.ReflCmp.isLE_rfl⟩
  · exact ⟨Std.ReflCmp.isLE_rfl, Ordering.isLE_iff_ne_gt.2 hgt⟩

/-- and in the end one that ranks behind none -/
theorem foldl_moreSpecific_isLE (matcher : PathMatcher) (path : Text) [Std.TransCmp (matcher.compare path)]
    (a : Text × α) (more : List (Text × α)) :
    ∀ y ∈ a :: more, (matcher.compare path (more.foldl (moreSpecific matcher path) a).1 y.1).isLE = true := by
  induction more generalizing a with
  | nil =>
    intro y hy
    rw [List.mem_singleton.1 hy]
    exact Std.ReflCmp.isLE_rfl
  | cons b more ih =>
    obtain ⟨ha, hb⟩ := moreSpecific_isLE matcher path a b
    have hkept := ih (moreSpecific matcher path a b) _ List.mem_cons_self
    intro y hy
    rcases List.mem_cons.1 hy with rfl | hy
    · exact Std.TransCmp.isLE_trans hkept ha
    · rcases List.mem_cons.1 hy with rfl | hy
      · exact Std.TransCmp.isLE_trans hkept hb
      · exact ih _ y (List.mem_cons_of_mem _ hy)

instance (path : Text) : Std.TransCmp (PathMatcher.standard.compare path) :=
  inferInstanceAs (Std.TransCmp (comparePatterns path))

theorem mostSpecific_of_bestMatch? {e : Text × α} (h : bestMatch? .standard path entries = some e) :
    MostSpecific (entries.map (·.1)) path e.1 := by
  refine ⟨List.mem_map_of_mem (bestMatch?_mem h).1, (bestMatch?_mem h).2, fun other hin hmatch hne => ?_⟩
  obtain ⟨y, hy, rfl⟩ := List.mem_map.1 hin
  refine comparePatterns_lt_of_isLE ?_ hne
  have hfiltered : y ∈ entries.filter fun e => PathMatcher.standard.accepts e.1 path := List.mem_filter.2 ⟨hy, hmatch⟩
  rw [bestMatch?] at h
  split at h
  · cases h
  · rename_i a more hfilter
    cases h
    rw [hfilter] at hfiltered
    exact foldl_moreSpecific_isLE PathMatcher.standard path a more y hfiltered

/-- **The search finds the most specific pattern** -/
theorem bestMatch?_keys_eq_some_iff :
    (bestMatch? .standard path entries).map (·.1) = some q ↔ MostSpecific (entries.map (·.1)) path q := by
  constructor
  · intro h
    obtain ⟨e, he, rfl⟩ := Option.map_eq_some_iff.1 h
    exact mostSpecific_of_bestMatch? he
  · intro hq
    cases hbest : bestMatch? PathMatcher.standard path entries with
    | none =>
      obtain ⟨e, he, rfl⟩ := List.mem_map.1 hq.mem
      have hno := bestMatch?_eq_none_iff.1 hbest e he
      exact absurd hq.accepts (Bool.eq_false_iff.1 hno)
    | some e => exact congrArg some ((mostSpecific_of_bestMatch? hbest).eq hq)

/-- among bindings, visited in any order, the search finds the one of the most specific pattern -/
theorem bestMatch?_visits_eq_some_iff (h : visits.Perm b.toList) {e : Text × α} :
    bestMatch? .standard path visits = some e ↔ MostSpecific b.keys path e.1 ∧ e ∈ b := by
  have hkeys : ∀ k, k ∈ visits.map (·.1) ↔ k ∈ b.keys := fun k => (h.map _).mem_iff
  rw [← mostSpecific_congr hkeys, ← Bindings.mem_toList, ← h.mem_iff]
  constructor
  · exact fun hbest => ⟨mostSpecific_of_bestMatch? hbest, (bestMatch?_mem hbest).1⟩
  · rintro ⟨hq, he⟩
    obtain ⟨e', he', hkey⟩ := Option.map_eq_some_iff.1 (bestMatch?_keys_eq_some_iff.2 hq)
    rw [he', Bindings.eq_of_mem (h.mem_iff.1 (bestMatch?_mem he').1) (h.mem_iff.1 he) hkey]

theorem bestMatch?_eq_some_iff {e : Text × α} :
    bestMatch? .standard path b.toList = some e ↔ MostSpecific b.keys path e.1 ∧ e ∈ b :=
  bestMatch?_visits_eq_some_iff (.refl _)

/-- the order of the visits does not show -/
theorem bestMatch?_visits (h : visits.Perm b.toList) :
    bestMatch? .standard path visits = bestMatch? .standard path b.toList := by
  refine Option.ext fun e => ?_
  rw [bestMatch?_visits_eq_some_iff h, bestMatch?_eq_some_iff]

/-- searches among the same patterns select the same one, whatever is bound -/
theorem bestMatch?_keys_congr {β : Type} {others : Bindings β} (h : ∀ k, k ∈ b.keys ↔ k ∈ others.keys) :
    (bestMatch? .standard path b.toList).map (·.1) = (bestMatch? .standard path others.toList).map (·.1) := by
  refine Option.ext fun q => ?_
  rw [bestMatch?_keys_eq_some_iff, bestMatch?_keys_eq_some_iff]
  exact mostSpecific_congr h

/-! ## The shortcut -/

section

-- the pattern that is the path itself ranks first, if it is registered
variable (hpath : path ∈ m.patterns → MostSpecific m.patterns path path)

include hpath

/-- the mapping finds what the search among all its entries finds -/
theorem lookup?_eq_bestMatch? :
    (m.lookup? .standard path).map (fun hit => (hit.pattern, hit.handler)) =
      bestMatch? .standard path m.entries.toList := by
  rw [Mapping.lookup?]
  cases hget : m.entries.get? path with
  | some handler =>
    have hin := Bindings.mem_of_get? hget
    have hfirst : MostSpecific m.entries.keys path path := hpath (Bindings.mem_keys_of_mem hin)
    exact (bestMatch?_eq_some_iff.2 ⟨hfirst, hin⟩).symm
  | none =>
    cases bestMatch? PathMatcher.standard path m.entries.toList <;> rfl

theorem lookup?_eq_none_iff : m.lookup? .standard path = none ↔ ∀ k ∈ m.patterns, pathMatches k path = false := by
  have hnone : m.lookup? .standard path = none ↔ bestMatch? .standard path m.entries.toList = none := by
    rw [← lookup?_eq_bestMatch? hpath, Option.map_eq_none_iff]
  rw [hnone, bestMatch?_eq_none_iff]
  simp [Mapping.patterns, Bindings.keys, PathMatcher.standard]

theorem lookup?_pattern :
    (m.lookup? .standard path).map (·.pattern) = (bestMatch? .standard path m.entries.toList).map (·.1) := by
  rw [← lookup?_eq_bestMatch? hpath, Option.map_map]
  rfl

theorem lookup?_pattern_eq_some_iff :
    (m.lookup? .standard path).map (·.pattern) = some q ↔ MostSpecific m.patterns path q := by
  rw [lookup?_pattern hpath]
  exact bestMatch?_keys_eq_some_iff

/-- a provider with the same patterns selects the same one -/
theorem bestMatch?_provider (p : Provider) (hmatcher : p.matcher = .standard)
    (hkeys : ∀ k, k ∈ p.handlers.keys ↔ k ∈ m.patterns) :
    (bestMatch? p.matcher path p.handlers.toList).map (·.1) = (m.lookup? .standard path).map (·.pattern) := by
  rw [lookup?_pattern hpath, hmatcher]
  exact bestMatch?_keys_congr hkeys

end

/-- a path other than `/**` is the most specific pattern for itself -/
theorem mostSpecific_path {patterns : List Text} (hpath : path ≠ Specificity.catchAllPattern) (h : path ∈ patterns) :
    MostSpecific patterns path path :=
  ⟨h, pathMatches_self path, fun _ _ _ hne => comparePatterns_path hpath hne⟩

/-- **The shortcut agrees with the search.** For every path but `/**`, a mapping finds what the search among all its
entries finds: something just if a pattern matches, where every pattern matches itself, and then the one pattern that
matches and ranks before every other one that does. A provider with the same patterns selects the same one. -/
theorem lookup?_mostSpecific (hpath : path ≠ Specificity.catchAllPattern) :
    (m.lookup? .standard path).map (fun hit => (hit.pattern, hit.handler)) =
      bestMatch? .standard path m.entries.toList ∧
    ((m.lookup? .standard path).isSome = true ↔ ∃ k ∈ m.patterns, pathMatches k path = true) ∧
    (∀ k ∈ m.patterns, pathMatches k k = true) ∧
    (∀ q, (m.lookup? .standard path).map (·.pattern) = some q ↔ MostSpecific m.patterns path q) ∧
    ∀ p : Provider, p.matcher = .standard → (∀ k, k ∈ p.handlers.keys ↔ k ∈ m.patterns) →
      (bestMatch? p.matcher path p.handlers.toList).map (·.1) = (m.lookup? .standard path).map (·.pattern) := by
  have hfirst : path ∈ m.patterns → MostSpecific m.patterns path path := mostSpecific_path hpath
  refine ⟨lookup?_eq_bestMatch? hfirst, ?_, fun k _ => pathMatches_self k,
    fun q => lookup?_pattern_eq_some_iff hfirst, bestMatch?_provider hfirst⟩
  rw [Option.isSome_iff_ne_none, ne_eq, lookup?_eq_none_iff hfirst]
  simp

/-- patterns that match each other's texts, with and without a slash in front -/
def overlapping : Mapping where
  name := "files".toList
  order := 0
  entries := ⟨[("/*".toList, .endpoint ['e']), ("/**".toList, .endpoint ['d']),
    ("/*/\x7bx\x7d".toList, .endpoint ['c']), ("/a/*".toList, .endpoint ['b']), ("/a/\x7bx\x7d".toList, .endpoint ['a'])], by decide⟩
  kept := by decide

/-- the path is the text of a pattern that three others match -/
theorem lookup?_mostSpecific_overlapping :
    MostSpecific overlapping.patterns "/*/\x7bx\x7d".toList "/*/\x7bx\x7d".toList ∧
      MostSpecific overlapping.patterns "/a/b".toList "/a/\x7bx\x7d".toList := by
  have htext : "/*/\x7bx\x7d".toList ≠ Specificity.catchAllPattern := by decide
  have hother : "/a/b".toList ≠ Specificity.catchAllPattern := by decide
  obtain ⟨-, -, -, hshortcut, -⟩ := lookup?_mostSpecific (m := overlapping) htext
  obtain ⟨-, -, -, hsearch, -⟩ := lookup?_mostSpecific (m := overlapping) hother
  exact ⟨(hshortcut _).1 rfl, (hsearch _).1 (by decide +kernel)⟩

/-- of `/**` the shortcut takes the catch-all, which the search would leave to any other pattern -/
example : (overlapping.lookup? .standard "/**".toList).map (·.pattern) = some "/**".toList ∧
    (bestMatch? .standard "/**".toList overlapping.entries.toList).map (·.1) = some "/*".toList := by decide +kernel

/-! ## The order of visits -/

theorem forLookupPathAmong_perm {p : Provider} {visits : List (Text × Resource.ResourceHandler)}
    (hm : p.matcher = .standard) (h : visits.Perm p.handlers.toList) (tree : FileTree) (path : Text) :
    p.forLookupPathAmong visits tree path = p.forLookupPath tree path := by
  rw [Provider.forLookupPath, Provider.forLookupPathAmong, Provider.forLookupPathAmong, hm, bestMatch?_visits h]

/-- **The rank is a linear order.** For every path it is reflexive, antisymmetric, transitive and total on all texts,
and only equal texts rank equal. So patterns are sorted into one list in whatever order they come, and a provider gives
the same answer in whatever order it visits its patterns. -/
theorem specificity_linear (path : Text) :
    (∀ a, comparePatterns path a a = .eq) ∧
    (∀ a b, (comparePatterns path a b).isLE = true → (comparePatterns path b a).isLE = true → a = b) ∧
    (∀ a b c, (comparePatterns path a b).isLE = true → (comparePatterns path b c).isLE = true →
      (comparePatterns path a c).isLE = true) ∧
    (∀ a b, (comparePatterns path a b).isLE = true ∨ (comparePatterns path b a).isLE = true) ∧
    (∀ a b, comparePatterns path a b = (comparePatterns path b a).swap) ∧
    (∀ a b, comparePatterns path a b = .eq → a = b) ∧
    (∀ patterns patterns' : List Text, patterns.Perm patterns' →
      patterns.mergeSort (fun a b => (comparePatterns path a b).isLE) =
        patterns'.mergeSort (fun a b => (comparePatterns path a b).isLE)) ∧
    (∀ patterns arranged : List Text, arranged.Perm patterns →
      (arranged.Pairwise fun a b => (comparePatterns path a b).isLE = true) →
      arranged = patterns.mergeSort fun a b => (comparePatterns path a b).isLE) ∧
    ∀ (p : Provider) (visits : List (Text × Resource.ResourceHandler)) (tree : FileTree), p.matcher = .standard →
      visits.Perm p.handlers.toList → p.forLookupPathAmong visits tree path = p.forLookupPath tree path := by
  refine ⟨fun a => Std.ReflCmp.compare_self, fun a b => comparePatterns_antisymm, fun a b c => Std.TransCmp.isLE_trans,
    comparePatterns_total path, comparePatterns_swap path, fun a b => Std.LawfulEqCmp.eq_of_compare,
    fun patterns patterns' hperm => ?_, fun patterns arranged hperm hsorted => ?_,
    fun p visits tree hm hperm => forLookupPathAmong_perm hm hperm tree path⟩
  · obtain ⟨hsame, hsorted⟩ := (eq_mergeSort_iff path).1 (rfl : patterns.mergeSort _ = _)
    exact (eq_mergeSort_iff path).2 ⟨hsame.trans hperm, hsorted⟩
  · exact (eq_mergeSort_iff path).2 ⟨hperm, hsorted⟩

/-- braces that are not closed and stars in a row are ranked as well -/
example : ["/a".toList, "/\x7ba".toList, "/***".toList, "/**".toList].Pairwise
    fun a b => comparePatterns "/a".toList a b = .lt := by decide +kernel

end ResourceServer.Routing
