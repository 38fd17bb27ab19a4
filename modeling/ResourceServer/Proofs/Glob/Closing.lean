/-
Slashes at the end of patterns and paths.

Segments do not know of them, and the comparison looks at them in one place only: where a pattern without `**` and a
path are used up together from the front. Behind a `**` the other ends of the comparison go by segments alone.
- `closed_eq_of_pathMatches`: a pattern without `**` whose last segment is no `*` ends with a slash just as the paths do
  that it matches.
- `pathMatches_append_slashes`: for a pattern with `**`, slashes may be added at either end.
- `closed_eq_iff`: the slashes agree for all matched paths just if the pattern has no `**`.
- `slash_behind_doubleStar`: a pattern that ends in a literal segment, and a path with a slash more.
-/
import ResourceServer.Proofs.Glob.Literal

namespace ResourceServer.Glob

variable {pattern path : Text}

/-- the last segment, if there is one, is neither `**` nor `*` -/
def EndsFixed (segments : List Text) : Prop := ∀ last ∈ segments.getLast?, last ≠ doubleStar ∧ last ≠ ['*']

instance (segments : List Text) : Decidable (EndsFixed segments) :=
  inferInstanceAs (Decidable (∀ last ∈ segments.getLast?, last ≠ doubleStar ∧ last ≠ ['*']))

theorem EndsFixed.not_star {segments : List Text} (h : EndsFixed segments) (front : List Text) :
    segments ≠ front ++ [['*']] := by
  rintro rfl
  exact (h ['*'] List.getLast?_concat).2 rfl

/-- **Without `**` the slashes agree**, unless a last `*` stands for the slash of the path -/
theorem closed_eq_of_pathMatches (hend : EndsFixed (Text.segments pattern)) (hd : doubleStar ∉ Text.segments pattern)
    (h : pathMatches pattern path = true) : Text.closed pattern = Text.closed path := by
  rw [pathMatches_iff_accords, accords_single_iff hd] at h
  rcases h.2 with ⟨-, hclosed⟩ | ⟨front, hstar, -, -⟩
  · exact hclosed
  · exact absurd hstar (hend.not_star front)

/-- **With `**` slashes at the end make no difference**, neither behind the path nor behind the pattern -/
theorem pathMatches_append_slashes (hd : doubleStar ∈ Text.segments pattern) (hpath : path ≠ []) (n : ℕ) :
    pathMatches pattern (path ++ List.replicate n '/') = pathMatches pattern path ∧
      pathMatches (pattern ++ List.replicate n '/') path = pathMatches pattern path := by
  have hpattern : pattern ≠ [] := by
    rintro rfl
    cases hd
  have hsegments := Text.segments_append_slashes pattern n
  have hlonger : doubleStar ∈ Text.segments (pattern ++ List.replicate n '/') := by rwa [hsegments]
  constructor
  · rw [Bool.eq_iff_iff, pathMatches_iff_accords, pathMatches_iff_accords, accords_double_iff hd, accords_double_iff hd,
      Text.segments_append_slashes, Text.rooted_append hpath]
  · rw [Bool.eq_iff_iff, pathMatches_iff_accords, pathMatches_iff_accords, accords_double_iff hd,
      accords_double_iff hlonger, hsegments, Text.rooted_append hpattern]

/-- a pattern with `**` also matches its own segments with the other ending -/
theorem exists_closed_ne (hd : doubleStar ∈ Text.segments pattern) :
    ∃ path, Text.segments path ≠ [] ∧ pathMatches pattern path = true ∧ Text.closed pattern ≠ Text.closed path := by
  obtain ⟨front, n, hpattern, hopen⟩ := Text.exists_eq_append_slashes pattern
  have hsegments : Text.segments pattern = Text.segments front := by rw [hpattern, Text.segments_append_slashes]
  have hne : Text.segments front ≠ [] := by
    rw [← hsegments]
    exact List.ne_nil_of_mem hd
  have hfront : front ≠ [] := by
    rintro rfl
    exact hne rfl
  have hmatch : pathMatches pattern front = true := by
    rw [← (pathMatches_append_slashes hd hfront n).1, ← hpattern, pathMatches_self]
  cases hclosed : Text.closed pattern with
  | true =>
    refine ⟨front, hne, hmatch, ?_⟩
    rw [hopen]
    decide
  | false =>
    refine ⟨front ++ List.replicate 1 '/', ?_, ?_, ?_⟩
    · rwa [Text.segments_append_slashes]
    · rw [(pathMatches_append_slashes hd hfront 1).1, hmatch]
    · rw [List.replicate_one, Text.closed_concat]
      decide

/-- **When the slashes at the end agree.** For a pattern whose last segment is neither `**` nor `*`, they are those of
every path with segments that it matches just if it has no `**`. With one, slashes at the end make no difference. -/
theorem closed_eq_iff (hend : EndsFixed (Text.segments pattern)) :
    ((∀ path, Text.segments path ≠ [] → pathMatches pattern path = true → Text.closed pattern = Text.closed path) ↔
      doubleStar ∉ Text.segments pattern) ∧
    (doubleStar ∈ Text.segments pattern → ∀ path, Text.segments path ≠ [] → ∀ n,
      pathMatches pattern (path ++ List.replicate n '/') = pathMatches pattern path ∧
        pathMatches (pattern ++ List.replicate n '/') path = pathMatches pattern path) := by
  refine ⟨⟨fun hagree hd => ?_, fun hd path _ h => closed_eq_of_pathMatches hend hd h⟩, fun hd path hpath n => ?_⟩
  · obtain ⟨path, hne, hmatch, hdiffer⟩ := exists_closed_ne hd
    exact hdiffer (hagree path hne hmatch)
  · refine pathMatches_append_slashes hd ?_ n
    rintro rfl
    exact hpath rfl

/-- with `**` in front of its last segment a pattern matches a path with two slashes at the end, and without `**` a
pattern of the same last segment does not -/
theorem closed_eq_iff_sample :
    EndsFixed (Text.segments "/x/**/a".toList) ∧ pathMatches "/x/**/a".toList "/x/y/a//".toList = true ∧
      EndsFixed (Text.segments "/x/?/a".toList) ∧ pathMatches "/x/?/a".toList "/x/y/a//".toList = false := by
  have hdouble : EndsFixed (Text.segments "/x/**/a".toList) := by decide
  have hplain : EndsFixed (Text.segments "/x/?/a".toList) := by decide
  refine ⟨hdouble, ?_, hplain, ?_⟩
  · have h := ((closed_eq_iff hdouble).2 (by decide) "/x/y/a".toList (by decide) 2).1
    exact h.trans (by decide +kernel)
  · rw [Bool.eq_false_iff]
    intro h
    have hclosed := (closed_eq_iff hplain).1.2 (by decide) "/x/y/a//".toList (by decide) h
    exact absurd hclosed (by decide)

/-- a literal last segment behind `**`, and a path with one slash more -/
theorem slash_behind_doubleStar :
    EndsFixed (Text.segments "/**/a".toList) ∧ Text.segments "/a/".toList ≠ [] ∧
      pathMatches "/**/a".toList "/a/".toList = true ∧ Text.closed "/**/a".toList = false ∧
      Text.closed "/a/".toList = true := by
  refine ⟨by decide, by decide, ?_⟩
  decide +kernel

end ResourceServer.Glob
