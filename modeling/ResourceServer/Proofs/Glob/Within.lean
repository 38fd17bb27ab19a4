/-
The part of a path that a pattern leaves open.

`PartWithin` says what the part is for each kind of pattern. Extraction finds the pattern's first wildcard by position
and takes the path's segments from there on; for a path that the pattern covers, the segments in front of that position
are matched one by one, and the others are what is left to the wildcards.
- `PartWithin.eq`, `PartWithin.unique`: there is one part.
- `partWithin_pathWithin`: extraction gives it, for a neat path and a pattern that is not literal.
-/
import ResourceServer.Proofs.Glob.Literal

namespace ResourceServer.Glob

variable {pattern path within within' q : Text} {before behind : List Text}

/-- the part of a path that a pattern leaves open, and for a literal pattern the path itself -/
inductive PartWithin (pattern path : Text) : Text → Prop where
  /-- without wildcards and variables, the whole path but for its first slash -/
  | literal {within : Text} : Literal pattern → path = '/' :: within → PartWithin pattern path within
  /-- the segments that are left to the pattern from its first wildcard on, behind those that its other segments match one
  by one; the empty text if none are left -/
  | wildcard {before behind passed rest : List Text} {q : Text} :
    Text.segments pattern = before ++ q :: behind → (∀ s ∈ before, hasWildcard s = false) → hasWildcard q = true →
    Text.segments path = passed ++ rest → Aligned before passed → Covers (q :: behind) rest →
    PartWithin pattern path (Text.join ['/'] rest)
  /-- with variables and no wildcards, nothing -/
  | onlyVariables : ¬ Literal pattern → (∀ s ∈ Text.segments pattern, hasWildcard s = false) → PartWithin pattern path []

/-! ## Wildcards -/

theorem not_literal_of_wildcard (hq : q ∈ Text.segments pattern) (h : hasWildcard q = true) : ¬ Literal pattern := by
  intro hliteral
  rw [hasWildcard_of_literal (hliteral.of_mem_segments hq)] at h
  cases h

/-- segments without wildcards are not `**` -/
theorem doubleStar_not_mem_of_hasWildcard (h : ∀ s ∈ before, hasWildcard s = false) : doubleStar ∉ before :=
  fun hin => absurd (h _ hin) (by decide)

/-- a pattern is cut in front of its first wildcard, if it has one -/
theorem wildcard_cases (segments : List Text) :
    (∀ s ∈ segments, hasWildcard s = false) ∨
      ∃ before q behind, segments = before ++ q :: behind ∧ (∀ s ∈ before, hasWildcard s = false) ∧
        hasWildcard q = true := by
  induction segments with
  | nil => exact .inl (by simp)
  | cons s segments ih =>
    cases hs : hasWildcard s with
    | true => exact .inr ⟨[], s, segments, rfl, by simp, hs⟩
    | false =>
      rcases ih with hnone | ⟨before, q, behind, rfl, hbefore, hq⟩
      · exact .inl (List.forall_mem_cons.2 ⟨hs, hnone⟩)
      · exact .inr ⟨s :: before, q, behind, rfl, List.forall_mem_cons.2 ⟨hs, hbefore⟩, hq⟩

/-! ## Extraction -/

/-- the search by position finds the wildcard in front of which the pattern is cut -/
theorem findIdx?_hasWildcard (hbefore : ∀ s ∈ before, hasWildcard s = false) (hq : hasWildcard q = true)
    (behind : List Text) : (before ++ q :: behind).findIdx? hasWildcard = some before.length := by
  rw [List.findIdx?_append, List.findIdx?_eq_none_iff.2 hbefore, List.findIdx?_cons, hq]
  simp

theorem pathWithin_of_wildcard (hrooted : Text.rooted pattern = true)
    (hsegments : Text.segments pattern = before ++ q :: behind) (hbefore : ∀ s ∈ before, hasWildcard s = false)
    (hq : hasWildcard q = true) (path : Text) :
    pathWithin pattern path = Text.join ['/'] ((Text.segments path).drop before.length) := by
  rw [pathWithin_of_rooted hrooted, hsegments, findIdx?_hasWildcard hbefore hq]

/-- the part is what extraction gives, and for a literal pattern the path without its first slash -/
theorem PartWithin.eq (h : PartWithin pattern path within) (hrooted : Text.rooted pattern = true) :
    within = if Literal pattern then path.tail else pathWithin pattern path := by
  cases h with
  | literal hliteral hpath => rw [if_pos hliteral, hpath, List.tail_cons]
  | @wildcard before behind passed rest q hsegments hbefore hq hpath haligned _ =>
    have hmem : q ∈ Text.segments pattern := by
      rw [hsegments]
      exact List.mem_append_right _ List.mem_cons_self
    rw [if_neg (not_literal_of_wildcard hmem hq), pathWithin_of_wildcard hrooted hsegments hbefore hq, hpath,
      haligned.length_eq, List.drop_left]
  | onlyVariables hliteral hnone => rw [if_neg hliteral, pathWithin_of_no_wildcard hnone]

theorem PartWithin.unique (h : PartWithin pattern path within) (h' : PartWithin pattern path within')
    (hrooted : Text.rooted pattern = true) : within = within' :=
  (h.eq hrooted).trans (h'.eq hrooted).symm

/-- the segments of a path that does not end with a slash are covered by those of a pattern that matches -/
theorem covers_of_pathMatches (h : pathMatches pattern path = true) (hclosed : Text.closed path = false) :
    Covers (Text.segments pattern) (Text.segments path) := by
  have haccords := ((pathMatches_iff_accords _ _).1 h).2
  by_cases hdouble : doubleStar ∈ Text.segments pattern
  · exact haccords.1 hdouble
  · rcases haccords.2 hdouble with ⟨hcovers, -⟩ | ⟨-, -, -, hslash⟩
    · exact hcovers
    · rw [hclosed] at hslash
      cases hslash

/-- **Extraction gives the part** that a matching pattern leaves open -/
theorem partWithin_pathWithin (h : pathMatches pattern path = true) (hn : Text.Neat path) (hliteral : ¬ Literal pattern) :
    PartWithin pattern path (pathWithin pattern path) := by
  have hrooted : Text.rooted pattern = true := ((pathMatches_iff_accords _ _).1 h).1.trans hn.rooted
  rcases wildcard_cases (Text.segments pattern) with hnone | ⟨before, q, behind, hsegments, hbefore, hq⟩
  · rw [pathWithin_of_no_wildcard hnone]
    exact .onlyVariables hliteral hnone
  · have hcovers := covers_of_pathMatches h hn.not_closed
    rw [hsegments, covers_append] at hcovers
    obtain ⟨passed, rest, hpath, hpassed, hrest⟩ := hcovers
    have haligned := (covers_iff_aligned (doubleStar_not_mem_of_hasWildcard hbefore)).1 hpassed
    rw [pathWithin_of_wildcard hrooted hsegments hbefore hq, hpath, haligned.length_eq, List.drop_left]
    exact .wildcard hsegments hbefore hq hpath haligned hrest

end ResourceServer.Glob
