/-
Patterns without wildcards and variables, and the part of a path that a pattern leaves open.

- `pathMatches_self`: every text matches itself as a pattern.
- `pathMatches_literal_iff`: a literal pattern matches the paths with its segments and its slashes at both ends. Among
  neat paths these are just the pattern.
- `pathWithin_of_rooted`: the part left open by a rooted pattern are the segments from its first wildcard on.
-/
import ResourceServer.Proofs.Glob.Path
import ResourceServer.Proofs.Glob.Segment
import ResourceServer.Proofs.Text.Segments

namespace ResourceServer.Glob

variable {pattern path : Text}

/-! ## A text as its own pattern -/

theorem covers_self (pattern : List Text) : Covers pattern pattern := by
  induction pattern with
  | nil => exact .nil
  | cons p pattern ih =>
    by_cases hp : p = doubleStar
    · subst hp
      exact covers_double_iff.2 ⟨[doubleStar], pattern, rfl, ih⟩
    · exact .one hp (segmentMatches_self p) ih

theorem pathMatches_self (path : Text) : pathMatches path path = true := by
  rw [pathMatches_iff_accords]
  exact ⟨rfl, fun _ => covers_self _, fun _ => .inl ⟨covers_self _, rfl⟩⟩

/-! ## Literal patterns -/

theorem Literal.of_mem_segments (h : Literal pattern) {s : Text} (hs : s ∈ Text.segments pattern) : Literal s := by
  have hchar : ∀ c, c ∉ pattern → c ∉ s := fun c hc hin =>
    hc (Text.mem_of_mem_piecesBy (List.mem_filter.1 hs).1 hin).1
  rw [literal_iff] at h ⊢
  exact ⟨hchar _ h.1, hchar _ h.2.1, hchar _ h.2.2⟩

theorem covers_literal_iff {pattern path : List Text} (h : ∀ p ∈ pattern, Literal p) :
    Covers pattern path ↔ pattern = path := by
  constructor
  · intro hc
    induction hc with
    | nil => rfl
    | double _ _ => exact absurd (literal_iff.1 (h _ List.mem_cons_self)).1 (by decide)
    | one _ hm _ ih =>
      rw [(segmentMatches_literal_iff (h _ List.mem_cons_self)).1 hm,
        ih fun p hp => h p (List.mem_cons_of_mem _ hp)]
  · rintro rfl
    exact covers_self pattern

theorem pathMatches_literal_iff (h : Literal pattern) :
    pathMatches pattern path = true ↔
      Text.rooted pattern = Text.rooted path ∧ Text.segments pattern = Text.segments path ∧
        Text.closed pattern = Text.closed path := by
  have hstar : ∀ p ∈ Text.segments pattern, '*' ∉ p := fun p hp => (literal_iff.1 (h.of_mem_segments hp)).1
  have hdouble : doubleStar ∉ Text.segments pattern := fun hin => hstar _ hin (by decide)
  have hone : ¬ ∃ front, Text.segments pattern = front ++ [['*']] ∧ Covers front (Text.segments path) ∧
      Text.closed path = true := by
    rintro ⟨front, hf, -⟩
    exact hstar ['*'] (by rw [hf]; simp) List.mem_cons_self
  rw [pathMatches_iff_accords, accords_single_iff hdouble, or_iff_left hone,
    covers_literal_iff fun p hp => h.of_mem_segments hp]

/-- among neat paths a literal pattern matches itself only -/
theorem pathMatches_literal_neat_iff (h : Literal pattern) (hs : ¬ Text.Doubled pattern) (hp : Text.Neat path) :
    pathMatches pattern path = true ↔ pattern = path := by
  constructor
  · intro hm
    obtain ⟨hr, hseg, hc⟩ := (pathMatches_literal_iff h).1 hm
    exact Text.Neat.eq_of_segments_eq ⟨hr.trans hp.rooted, hs, hc.trans hp.not_closed⟩ hp hseg
  · rintro rfl
    exact pathMatches_self pattern

/-! ## The part of a path that a pattern leaves open -/

theorem pathWithin_of_rooted (h : Text.rooted pattern = true) (path : Text) :
    pathWithin pattern path =
      match (Text.segments pattern).findIdx? hasWildcard with
      | none => []
      | some start => Text.join ['/'] ((Text.segments path).drop start) := by
  rw [pathWithin]
  cases (Text.segments pattern).findIdx? hasWildcard with
  | none => rfl
  | some start => simp [h]

theorem pathWithin_of_no_wildcard (hnone : ∀ s ∈ Text.segments pattern, hasWildcard s = false) (path : Text) :
    pathWithin pattern path = [] := by
  rw [pathWithin, List.findIdx?_eq_none_iff.2 hnone]

theorem hasWildcard_of_literal {s : Text} (h : Literal s) : hasWildcard s = false := by
  obtain ⟨hstar, hone, -⟩ := literal_iff.1 h
  simp [hasWildcard, hstar, hone]

theorem pathWithin_of_literal (h : Literal pattern) (path : Text) : pathWithin pattern path = [] :=
  pathWithin_of_no_wildcard (fun _ hs => hasWildcard_of_literal (h.of_mem_segments hs)) path

end ResourceServer.Glob
