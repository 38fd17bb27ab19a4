/-
Which of several path patterns is the more specific one, and path matchers.

`Specificity.of` counts a pattern's variables, its single and double stars and its length, where a variable counts as
one character. Patterns are ranked by `rank`: not the catch-all `/**` first, then the pattern equal to the path, then no
`/**` at the end, fewer wildcards, greater length, fewer single stars, fewer variables, and last the text itself, so
that two different patterns never rank equal.

A `PathMatcher` answers the four questions that routing asks about patterns; `PathMatcher.standard` is matching by
wildcards and variables with this rank.
-/
import ResourceServer.Glob.Path

namespace ResourceServer.Glob

/-- the wildcard counts of a pattern -/
structure Specificity where
  pattern : Text
  variableCount : Nat
  singleStars : Nat
  doubleStars : Nat
  catchAll : Bool
  underSlash : Bool
  length : Nat
  deriving DecidableEq, Repr

namespace Specificity

/-- the counts of a text -/
structure Counts where
  variableCount : Nat
  singleStars : Nat
  doubleStars : Nat
  length : Nat
  deriving DecidableEq, Repr

/-- one more of each given count -/
def Counts.add (a b : Counts) : Counts :=
  ⟨a.variableCount + b.variableCount, a.singleStars + b.singleStars, a.doubleStars + b.doubleStars, a.length + b.length⟩

/-- counts a text, which starts inside a variable or not -/
def count : Bool → Text → Counts
  | _, [] => ⟨0, 0, 0, 0⟩
  | _, '\x7b' :: rest => Counts.add ⟨1, 0, 0, 0⟩ (count true rest)
  | true, '}' :: rest => Counts.add ⟨0, 0, 0, 1⟩ (count false rest)
  | true, _ :: rest => count true rest
  | false, '*' :: '*' :: rest => Counts.add ⟨0, 0, 1, 2⟩ (count false rest)
  | false, '*' :: rest => Counts.add ⟨0, 1, 0, 1⟩ (count false rest)
  | false, _ :: rest => Counts.add ⟨0, 0, 0, 1⟩ (count false rest)

/-- the pattern of all paths -/
def catchAllPattern : Text := ['/', '*', '*']

/-- the counts of a pattern, and whether it is the catch-all or matches all below a path -/
def of (pattern : Text) : Specificity :=
  let counts := count false pattern
  { pattern
    variableCount := counts.variableCount
    singleStars := counts.singleStars
    doubleStars := counts.doubleStars
    catchAll := pattern == catchAllPattern
    underSlash := pattern != catchAllPattern && catchAllPattern.isSuffixOf pattern
    length := counts.length }

/-- the number of wildcards, a double star counting twice -/
def wildcards (s : Specificity) : Nat := s.variableCount + s.singleStars + 2 * s.doubleStars

/-- order of truth values, false first -/
def orderFlag (a b : Bool) : Ordering := compare a.toNat b.toNat

/-- ranks two patterns for a path, the more specific one first -/
def compare (path : Text) (a b : Specificity) : Ordering :=
  (orderFlag a.catchAll b.catchAll).then <|
  (orderFlag (a.pattern != path) (b.pattern != path)).then <|
  (orderFlag a.underSlash b.underSlash).then <|
  (Ord.compare a.wildcards b.wildcards).then <|
  (Ord.compare b.length a.length).then <|
  (Ord.compare a.singleStars b.singleStars).then <|
  (Ord.compare a.variableCount b.variableCount).then <|
  Text.order a.pattern b.pattern

end Specificity

/-- ranks two patterns for a path, the more specific one first -/
def comparePatterns (path a b : Text) : Ordering :=
  Specificity.compare path (Specificity.of a) (Specificity.of b)

/-! ## Matchers -/

/-- the questions about patterns and paths -/
structure PathMatcher where
  /-- whether a text has wildcards or variables -/
  isPattern : Text → Bool
  /-- whether a pattern matches a path -/
  accepts : Text → Text → Bool
  /-- the part of a path that a pattern leaves open -/
  within : Text → Text → Text
  /-- ranks two patterns for a path, the more specific one first -/
  compare : Text → Text → Text → Ordering

/-- matching by wildcards and variables -/
def PathMatcher.standard : PathMatcher := ⟨Glob.isPattern, pathMatches, pathWithin, comparePatterns⟩

end ResourceServer.Glob
