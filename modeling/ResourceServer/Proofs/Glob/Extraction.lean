/-
Where extraction cuts a path.

Extraction looks at positions only: it finds the first segment of the pattern that has a wildcard, and takes the
segments of the path from the same position on. For a path that the pattern matches this is the right place, because the
segments in front of it are no `**` and are matched one by one, whatever follows them.
- `aligned_front_of_pathMatches`: the segments of a pattern in front of its first `**` are matched one by one.
- `pathWithin_cut`: extraction cuts at the first wildcard, and its result splits into just the segments behind the cut.
- `pathWithin_isPattern`: for a text that is a pattern at all, the cut is at its first segment with a wildcard or a
  variable just if this segment has a wildcard; variables alone are not looked for.
- `variables_not_extracted`: patterns with variables only, of which nothing is extracted.
-/
import ResourceServer.Proofs.Glob.Within

namespace ResourceServer.Glob

variable {marks : List Char} {pattern path s : Text} {segments before behind : List Text} {k m : ℕ}

/-! ## Marked segments -/

/-- one of the characters occurs -/
def Marked (marks : List Char) (s : Text) : Prop := ∃ c ∈ marks, c ∈ s

instance (marks : List Char) (s : Text) : Decidable (Marked marks s) :=
  decidable_of_iff (marks.any s.contains = true) (by simp [Marked])

/-- the wildcards that extraction looks for -/
def wildcardMarks : List Char := ['*', '?']

/-- the wildcards, and the brace that begins a variable -/
def patternMarks : List Char := ['*', '?', '\x7b']

theorem hasWildcard_iff_marked : hasWildcard s = true ↔ Marked wildcardMarks s := by
  simp [hasWildcard, Marked, wildcardMarks]

theorem isPattern_iff_marked : isPattern s = true ↔ Marked patternMarks s := by
  simp [isPattern, Marked, patternMarks, or_assoc]

theorem Marked.of_wildcard (h : Marked wildcardMarks s) : Marked patternMarks s := by
  obtain ⟨c, hc, hs⟩ := h
  exact ⟨c, List.mem_append_left ['\x7b'] hc, hs⟩

/-- a text is marked in one of its segments -/
theorem exists_marked_segment (hmarks : '/' ∉ marks) :
    (∃ s ∈ Text.segments pattern, Marked marks s) ↔ Marked marks pattern := by
  constructor
  · rintro ⟨s, hs, c, hc, hin⟩
    have hne : c ≠ '/' := fun e => hmarks (e ▸ hc)
    exact ⟨c, hc, (Text.exists_segment_of_mem hne).1 ⟨s, hs, hin⟩⟩
  · rintro ⟨c, hc, hin⟩
    have hne : c ≠ '/' := fun e => hmarks (e ▸ hc)
    obtain ⟨s, hs, hin⟩ := (Text.exists_segment_of_mem hne).2 hin
    exact ⟨s, hs, c, hc, hin⟩

/-- the segment at a position is marked, and no segment in front of it -/
structure FirstMarked (marks : List Char) (segments : List Text) (k : ℕ) : Prop where
  marked : ∃ s, segments[k]? = some s ∧ Marked marks s
  before : ∀ s ∈ segments.take k, ¬ Marked marks s

theorem FirstMarked.lt (h : FirstMarked marks segments k) : k < segments.length := by
  obtain ⟨s, hs, -⟩ := h.marked
  exact (List.getElem?_eq_some_iff.1 hs).1

/-- no marked segment comes earlier -/
theorem FirstMarked.le (h : FirstMarked marks segments k) (hm : segments[m]? = some s) (hs : Marked marks s) :
    k ≤ m := by
  by_contra hlt
  refine h.before s (List.mem_of_getElem? (i := m) ?_) hs
  rw [List.getElem?_take_of_lt (by omega), hm]

/-- there is a first marked segment where one is marked at all -/
theorem exists_firstMarked_iff : (∃ k, FirstMarked marks segments k) ↔ ∃ s ∈ segments, Marked marks s := by
  constructor
  · rintro ⟨k, h⟩
    obtain ⟨s, hs, hmarked⟩ := h.marked
    exact ⟨s, List.mem_of_getElem? hs, hmarked⟩
  · intro h
    induction segments with
    | nil => simp at h
    | cons s segments ih =>
      by_cases hs : Marked marks s
      · exact ⟨0, ⟨s, rfl, hs⟩, by simp⟩
      · obtain ⟨k, hk⟩ := ih (by simpa [hs] using h)
        exact ⟨k + 1, hk.marked, List.forall_mem_cons.2 ⟨hs, hk.before⟩⟩

/-- the segments are cut in front of the first marked one -/
theorem FirstMarked.split (h : FirstMarked marks segments k) :
    ∃ q behind, segments = segments.take k ++ q :: behind ∧ Marked marks q := by
  obtain ⟨q, hq, hmarked⟩ := h.marked
  refine ⟨q, segments.drop (k + 1), ?_, hmarked⟩
  rw [← drop_of_getElem? hq, List.take_append_drop]

/-- the search for a wildcard by position finds the first one -/
theorem FirstMarked.findIdx?_eq (h : FirstMarked wildcardMarks segments k) : segments.findIdx? hasWildcard = some k := by
  obtain ⟨q, behind, hsplit, hq⟩ := h.split
  have hbefore : ∀ s ∈ segments.take k, hasWildcard s = false := fun s hs =>
    Bool.eq_false_iff.2 fun hwild => h.before s hs (hasWildcard_iff_marked.1 hwild)
  rw [hsplit, findIdx?_hasWildcard hbefore (hasWildcard_iff_marked.2 hq), List.length_take, min_eq_left h.lt.le]

/-! ## The segments in front of the cut -/

/-- segments at the front of a pattern are matched one by one if no `**` is among them and another one follows -/
theorem aligned_front_of_pathMatches {q : Text} (h : pathMatches pattern path = true)
    (hsegments : Text.segments pattern = before ++ q :: behind) (hplain : doubleStar ∉ before) :
    ∃ passed rest, Text.segments path = passed ++ rest ∧ Aligned before passed := by
  have hcovered : ∀ more, Covers (before ++ more) (Text.segments path) →
      ∃ passed rest, Text.segments path = passed ++ rest ∧ Aligned before passed := by
    intro more hc
    obtain ⟨passed, rest, hpath, hpassed, -⟩ := covers_append.1 hc
    exact ⟨passed, rest, hpath, (covers_iff_aligned hplain).1 hpassed⟩
  have haccords := ((pathMatches_iff_accords _ _).1 h).2
  by_cases hdouble : doubleStar ∈ Text.segments pattern
  · exact hcovered _ (hsegments ▸ haccords.1 hdouble)
  · rcases haccords.2 hdouble with ⟨hc, -⟩ | ⟨front, hfront, hc, -⟩
    · exact hcovered _ (hsegments ▸ hc)
    · have hprefix : before <+: front ++ [['*']] := ⟨q :: behind, hsegments.symm.trans hfront⟩
      -- the last `*`, which stands for a slash of the path, is not in front of any segment
      rcases List.prefix_concat_iff.1 hprefix with rfl | ⟨more, rfl⟩
      · have hnil : q :: behind = [] := List.append_right_eq_self.1 (hsegments.symm.trans hfront)
        cases hnil
      · exact hcovered more hc

/-- the segments in front of the first wildcard are matched one by one -/
theorem FirstMarked.aligned (hk : FirstMarked wildcardMarks (Text.segments pattern) k)
    (h : pathMatches pattern path = true) :
    k ≤ (Text.segments path).length ∧ Aligned ((Text.segments pattern).take k) ((Text.segments path).take k) := by
  obtain ⟨q, behind, hsegments, -⟩ := hk.split
  have hplain : doubleStar ∉ (Text.segments pattern).take k := fun hin => hk.before _ hin (by decide)
  obtain ⟨passed, rest, hpath, haligned⟩ := aligned_front_of_pathMatches h hsegments hplain
  have hlength : passed.length = k := by
    rw [← haligned.length_eq, List.length_take, min_eq_left hk.lt.le]
  rw [hpath, List.take_left' hlength, List.length_append]
  exact ⟨by omega, haligned⟩

/-! ## The segments behind the cut -/

/-- the segments behind the cut, joined, with a slash in front where a pattern that is not rooted begins with the cut -/
theorem FirstMarked.pathWithin_eq (hk : FirstMarked wildcardMarks (Text.segments pattern) k) (path : Text) :
    pathWithin pattern path =
      (if Text.rooted pattern = false ∧ k = 0 ∧ (Text.segments path).drop k ≠ [] then ['/'] else []) ++
        Text.join ['/'] ((Text.segments path).drop k) := by
  rw [pathWithin, hk.findIdx?_eq]
  by_cases hzero : k = 0
  · subst hzero
    cases Text.rooted pattern <;> cases Text.segments path <;> rfl
  · simp [hzero]

theorem FirstMarked.segments_pathWithin (hk : FirstMarked wildcardMarks (Text.segments pattern) k) (path : Text) :
    Text.segments (pathWithin pattern path) = (Text.segments path).drop k := by
  have hjoin : Text.segments (Text.join ['/'] ((Text.segments path).drop k)) = (Text.segments path).drop k :=
    Text.segments_join fun s hs => Text.proper_of_mem_segments (List.mem_of_mem_drop hs)
  rw [hk.pathWithin_eq]
  split_ifs
  · rw [List.singleton_append, Text.segments_slash, hjoin]
  · rw [List.nil_append, hjoin]

/-- nothing is extracted just if nothing is behind the cut -/
theorem FirstMarked.pathWithin_eq_nil_iff (hk : FirstMarked wildcardMarks (Text.segments pattern) k) (path : Text) :
    pathWithin pattern path = [] ↔ (Text.segments path).length ≤ k := by
  constructor
  · intro hnil
    have hsegments := hk.segments_pathWithin path
    rw [hnil] at hsegments
    exact List.drop_eq_nil_iff.1 hsegments.symm
  · intro hle
    rw [hk.pathWithin_eq, List.drop_eq_nil_of_le hle]
    simp [Text.join]

/-- **Extraction cuts at the first wildcard.** Let a pattern match a path, and let `k` be the position of the pattern's
first segment with a wildcard. The path has `k` segments at least, and the first `k` are matched one by one. What is
extracted is the others, joined by slashes, behind a slash just if the pattern is not rooted, the cut is at its
beginning and something is left. It splits into these segments again, and is empty just if the path has no more than
`k`. -/
theorem pathWithin_cut (hk : FirstMarked wildcardMarks (Text.segments pattern) k)
    (h : pathMatches pattern path = true) :
    k ≤ (Text.segments path).length ∧
    List.Forall₂ (fun p s => segmentMatches p s = true)
      ((Text.segments pattern).take k) ((Text.segments path).take k) ∧
    pathWithin pattern path =
      (if Text.rooted pattern = false ∧ k = 0 ∧ (Text.segments path).drop k ≠ [] then ['/'] else []) ++
        Text.join ['/'] ((Text.segments path).drop k) ∧
    Text.segments (pathWithin pattern path) = (Text.segments path).drop k ∧
    (pathWithin pattern path = [] ↔ (Text.segments path).length = k) := by
  obtain ⟨hle, haligned⟩ := hk.aligned h
  refine ⟨hle, haligned.imp fun _ _ hs => hs.2, hk.pathWithin_eq path, hk.segments_pathWithin path, ?_⟩
  rw [hk.pathWithin_eq_nil_iff]
  omega

/-- the second segment is a variable, the cut is in front of the third, and a slash is doubled behind it -/
theorem pathWithin_cut_sample :
    FirstMarked wildcardMarks (Text.segments "/docs/\x7bv\x7d/a?/**".toList) 2 ∧
      pathMatches "/docs/\x7bv\x7d/a?/**".toList "/docs/1/ab//c.html/".toList = true ∧
      pathWithin "/docs/\x7bv\x7d/a?/**".toList "/docs/1/ab//c.html/".toList = "ab/c.html".toList ∧
      Text.segments (pathWithin "/docs/\x7bv\x7d/a?/**".toList "/docs/1/ab//c.html/".toList) =
        ["ab".toList, "c.html".toList] := by
  have hk : FirstMarked wildcardMarks (Text.segments "/docs/\x7bv\x7d/a?/**".toList) 2 :=
    ⟨⟨"a?".toList, rfl, by decide⟩, by decide⟩
  have h : pathMatches "/docs/\x7bv\x7d/a?/**".toList "/docs/1/ab//c.html/".toList = true := by decide +kernel
  obtain ⟨-, -, hwithin, hsegments, -⟩ := pathWithin_cut hk h
  exact ⟨hk, h, hwithin.trans (by decide), hsegments.trans (by decide)⟩

/-! ## Variables -/

/-- a segment with a wildcard is marked for a pattern too, so the first such segment comes no earlier -/
theorem FirstMarked.le_of_wildcard (hk : FirstMarked patternMarks segments k)
    (hm : FirstMarked wildcardMarks segments m) : k ≤ m := by
  obtain ⟨s, hs, hmarked⟩ := hm.marked
  exact hk.le hs hmarked.of_wildcard

theorem pathWithin_of_not_firstMarked (h : ∀ m, ¬ FirstMarked wildcardMarks (Text.segments pattern) m) (path : Text) :
    pathWithin pattern path = [] := by
  refine pathWithin_of_no_wildcard (fun s hs => ?_) path
  rw [Bool.eq_false_iff]
  intro hwild
  obtain ⟨m, hm⟩ := exists_firstMarked_iff.2 ⟨s, hs, hasWildcard_iff_marked.1 hwild⟩
  exact h m hm

/-- **What is extracted for a pattern with variables.** A pattern has a first segment with a wildcard or a variable. Of
a path that it matches and that has segments from there on, just these are extracted if and only if that segment has a
wildcard. Else the cut is made at the first wildcard behind it, and without one nothing is extracted. -/
theorem pathWithin_isPattern (hpattern : isPattern pattern = true) :
    ∃ k, FirstMarked patternMarks (Text.segments pattern) k ∧ ∀ path, pathMatches pattern path = true →
      k < (Text.segments path).length →
      ((pathWithin pattern path ≠ [] ∧ Text.segments (pathWithin pattern path) = (Text.segments path).drop k) ↔
        FirstMarked wildcardMarks (Text.segments pattern) k) ∧
      (∀ m, FirstMarked wildcardMarks (Text.segments pattern) m → k ≤ m ∧ m ≤ (Text.segments path).length ∧
        Text.segments (pathWithin pattern path) = (Text.segments path).drop m) ∧
      ((∀ m, ¬ FirstMarked wildcardMarks (Text.segments pattern) m) → pathWithin pattern path = []) := by
  obtain ⟨k, hk⟩ := exists_firstMarked_iff.2
    ((exists_marked_segment (by decide)).2 (isPattern_iff_marked.1 hpattern))
  refine ⟨k, hk, fun path h hmore => ⟨⟨?_, ?_⟩, ?_, fun hno => pathWithin_of_not_firstMarked hno path⟩⟩
  · rintro ⟨hne, hsegments⟩
    obtain ⟨m, hm⟩ : ∃ m, FirstMarked wildcardMarks (Text.segments pattern) m := by
      by_contra hno
      exact hne (pathWithin_of_not_firstMarked (not_exists.1 hno) path)
    -- segments are left behind the cut, so two cuts that leave the same are one
    have hlength := congrArg List.length (hsegments.symm.trans (hm.segments_pathWithin path))
    rw [List.length_drop, List.length_drop] at hlength
    have hle := hk.le_of_wildcard hm
    obtain rfl : k = m := by omega
    exact hm
  · intro hwild
    exact ⟨mt (hwild.pathWithin_eq_nil_iff path).1 (by omega), hwild.segments_pathWithin path⟩
  · intro m hm
    exact ⟨hk.le_of_wildcard hm, (hm.aligned h).1, hm.segments_pathWithin path⟩

/-- the variable is matched in front of the cut and left out -/
theorem pathWithin_isPattern_mixed :
    isPattern "/users/\x7bid\x7d/*.css".toList = true ∧
      pathMatches "/users/\x7bid\x7d/*.css".toList "/users/42/a.css".toList = true ∧
      ∃ k ≤ 2, FirstMarked patternMarks (Text.segments "/users/\x7bid\x7d/*.css".toList) k ∧
        Text.segments (pathWithin "/users/\x7bid\x7d/*.css".toList "/users/42/a.css".toList) = ["a.css".toList] := by
  have hpattern : isPattern "/users/\x7bid\x7d/*.css".toList = true := by decide
  have h : pathMatches "/users/\x7bid\x7d/*.css".toList "/users/42/a.css".toList = true := by decide +kernel
  have hm : FirstMarked wildcardMarks (Text.segments "/users/\x7bid\x7d/*.css".toList) 2 :=
    ⟨⟨"*.css".toList, rfl, by decide⟩, by decide⟩
  obtain ⟨k, hk, hpath⟩ := pathWithin_isPattern hpattern
  have hle : k ≤ 2 := hk.le_of_wildcard hm
  have hlength : (Text.segments "/users/42/a.css".toList).length = 3 := by decide
  obtain ⟨-, hcut, -⟩ := hpath _ h (by omega)
  exact ⟨hpattern, h, k, hle, hk, (hcut 2 hm).2.2.trans (by decide)⟩

/-- a segment that is a variable, and one that holds a variable, are matched, but nothing is extracted -/
theorem variables_not_extracted :
    isPattern "/users/\x7bid\x7d".toList = true ∧
      FirstMarked patternMarks (Text.segments "/users/\x7bid\x7d".toList) 1 ∧
      pathMatches "/users/\x7bid\x7d".toList "/users/42".toList = true ∧
      1 < (Text.segments "/users/42".toList).length ∧
      pathWithin "/users/\x7bid\x7d".toList "/users/42".toList = [] ∧
      pathMatches "/\x7bname\x7d.css".toList "/site.css".toList = true ∧
      pathWithin "/\x7bname\x7d.css".toList "/site.css".toList = [] := by
  refine ⟨by decide, ⟨⟨"\x7bid\x7d".toList, rfl, by decide⟩, by decide⟩, ?_⟩
  decide +kernel

end ResourceServer.Glob
