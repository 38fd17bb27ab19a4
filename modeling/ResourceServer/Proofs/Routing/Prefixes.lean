/-
Mappings of prefixes: each pattern is `/**` behind literal segments.

Such a pattern matches the paths whose segments begin with its own. Of two that match a path, one has the segments of
the other at its front, and it is the longer text; all counts that rank before the length are the same, except for `/**`
alone, which ranks last, and for a pattern that is the path itself. The latter has the longest segments of all that
match, because the `**` at its end is no literal segment.
- `pathMatches_below_iff`, `comparePatterns_below`: matching and rank of such patterns.
- `mostSpecific_iff_longestPrefix`: the most specific pattern is the one with the longest segments.
- `lookup?_longestPrefix`: a mapping of prefixes finds it, for every rooted path, and so does a provider.
-/
import ResourceServer.Proofs.Glob.Counts
import ResourceServer.Proofs.Routing.Selection

namespace ResourceServer.Routing

open Glob PublicUrl
open Specificity (Counts catchAllPattern)

variable {front other : List Text} {patterns : List Text} {path q : Text} {m : Mapping}

/-- a segment without wildcards and variables -/
structure LiteralSegment (s : Text) : Prop where
  proper : s ≠ [] ∧ '/' ∉ s
  literal : Literal s

/-- the pattern of all paths below some segments -/
def below (front : List Text) : Text := front.flatMap ('/' :: ·) ++ catchAllPattern

/-- each pattern is one of all paths below literal segments -/
def OfPrefixes (patterns : List Text) : Prop :=
  ∀ k ∈ patterns, ∃ front, (∀ s ∈ front, LiteralSegment s) ∧ k = below front

/-! ## Segments -/

theorem below_cons (s : Text) (front : List Text) : below (s :: front) = '/' :: (s ++ below front) := by
  simp [below]

theorem rooted_below (front : List Text) : Text.rooted (below front) = true := by
  cases front with
  | nil => rfl
  | cons s front => rw [below_cons]; rfl

theorem segments_below (h : ∀ s ∈ front, s ≠ [] ∧ '/' ∉ s) : Text.segments (below front) = front ++ [doubleStar] := by
  induction front with
  | nil => rfl
  | cons s front ih =>
    obtain ⟨hs, hfront⟩ := List.forall_mem_cons.1 h
    obtain ⟨rest, hrest⟩ := Text.rooted_iff.1 (rooted_below front)
    have hsegments : Text.segments rest = front ++ [doubleStar] := by
      rw [← Text.segments_slash, ← hrest, ih hfront]
    rw [below_cons, Text.segments_slash, hrest, Text.segments_append_slash hs, hsegments, List.cons_append]

theorem doubleStar_not_literal : ¬ Literal doubleStar := by decide

theorem doubleStar_not_mem (h : ∀ s ∈ front, LiteralSegment s) : doubleStar ∉ front :=
  fun hin => doubleStar_not_literal (h _ hin).literal

/-- literal segments at the front of such a pattern are at the front of its own -/
theorem prefix_of_prefix_concat (hother : doubleStar ∉ other) (h : other <+: front ++ [doubleStar]) : other <+: front := by
  rcases List.prefix_concat_iff.1 h with rfl | h
  · exact absurd (List.mem_append_right front (List.mem_singleton_self _)) hother
  · exact h

/-- a list of segments of a path is literal if its pattern is one of those of a mapping of prefixes -/
theorem OfPrefixes.literal (h : OfPrefixes patterns) (hin : below front ∈ patterns)
    (hpath : front <+: Text.segments path) : ∀ s ∈ front, LiteralSegment s := by
  obtain ⟨front', hfront', heq⟩ := h _ hin
  have hproper : ∀ s ∈ front, s ≠ [] ∧ '/' ∉ s := fun s hs => Text.proper_of_mem_segments (hpath.subset hs)
  have hsegments := congrArg Text.segments heq
  rw [segments_below hproper, segments_below fun s hs => (hfront' s hs).proper] at hsegments
  rwa [List.append_cancel_right hsegments]

/-- **Such a pattern matches the paths below its segments** -/
theorem pathMatches_below_iff (hfront : ∀ s ∈ front, LiteralSegment s) (hpath : Text.rooted path = true) :
    pathMatches (below front) path = true ↔ front <+: Text.segments path := by
  have hsegments := segments_below fun s hs => (hfront s hs).proper
  have hdouble : doubleStar ∈ Text.segments (below front) := by rw [hsegments]; simp
  rw [pathMatches_iff_accords, accords_double_iff hdouble, rooted_below, hpath, hsegments, covers_append]
  constructor
  · rintro ⟨-, passed, rest, hsplit, hcovers, -⟩
    rw [covers_literal_iff fun s hs => (hfront s hs).literal] at hcovers
    exact ⟨rest, hcovers ▸ hsplit.symm⟩
  · rintro ⟨rest, hrest⟩
    refine ⟨rfl, front, rest, hrest.symm, covers_self front, ?_⟩
    exact covers_double_iff.2 ⟨rest, [], (List.append_nil rest).symm, .nil⟩

/-! ## Rank -/

theorem count_literal_append {t : Text} (h : Literal t) (rest : Text) :
    Specificity.count false (t ++ rest) = Counts.add ⟨0, 0, 0, t.length⟩ (Specificity.count false rest) := by
  induction t with
  | nil => simp [Counts.add]
  | cons c t ih =>
    rw [literal_iff] at h
    simp only [List.mem_cons, not_or] at h
    obtain ⟨⟨hstar, hstar'⟩, ⟨-, hone'⟩, hopen, hopen'⟩ := h
    rw [List.cons_append, Specificity.count_plain (Ne.symm hstar) (Ne.symm hopen),
      ih (literal_iff.2 ⟨hstar', hone', hopen'⟩), ← Counts.add_assoc, List.length_cons, Nat.add_comm t.length]
    rfl

theorem literal_flatMap (h : ∀ s ∈ front, LiteralSegment s) : Literal (front.flatMap ('/' :: ·)) := by
  have hnone : ∀ c : Char, c ≠ '/' → (∀ s ∈ front, c ∉ s) → c ∉ front.flatMap ('/' :: ·) := by
    intro c hc hnot hin
    obtain ⟨s, hs, hcs⟩ := List.mem_flatMap.1 hin
    exact hnot s hs ((List.mem_cons.1 hcs).resolve_left hc)
  refine literal_iff.2 ⟨hnone _ (by decide) fun s hs => ?_, hnone _ (by decide) fun s hs => ?_,
    hnone _ (by decide) fun s hs => ?_⟩
  · exact (literal_iff.1 (h s hs).literal).1
  · exact (literal_iff.1 (h s hs).literal).2.1
  · exact (literal_iff.1 (h s hs).literal).2.2

theorem below_eq_catchAll_iff : below front = catchAllPattern ↔ front = [] := by
  rw [below, List.append_left_eq_self]
  cases front <;> simp

/-- one double star, and `/**` at the end unless there is nothing else -/
theorem specificity_below (h : ∀ s ∈ front, LiteralSegment s) :
    Specificity.of (below front) = ⟨below front, 0, 0, 1, front.isEmpty, !front.isEmpty, (below front).length⟩ := by
  have hcount : Specificity.count false (below front) = ⟨0, 0, 1, (below front).length⟩ := by
    have hend : Specificity.count false catchAllPattern = ⟨0, 0, 1, 3⟩ := by decide
    rw [below, count_literal_append (literal_flatMap h), hend, List.length_append]
    rfl
  have hcatchAll : (below front == catchAllPattern) = front.isEmpty := by
    rw [Bool.eq_iff_iff, beq_iff_eq, below_eq_catchAll_iff, List.isEmpty_iff]
  have hsuffix : catchAllPattern.isSuffixOf (below front) = true :=
    List.isSuffixOf_iff_suffix.2 (List.suffix_append _ _)
  rw [Specificity.of, hcount, hcatchAll, bne, hcatchAll, hsuffix, Bool.and_true]

theorem length_below_lt (h : other <+: front) (hne : other ≠ front) : (below other).length < (below front).length := by
  obtain ⟨more, rfl⟩ := h
  have hmore : more ≠ [] := by
    rintro rfl
    exact hne (List.append_nil _).symm
  obtain ⟨s, more, rfl⟩ := List.exists_cons_of_ne_nil hmore
  simp [below]
  omega

/-- **Of two such patterns that match a path, the one with more segments ranks before** -/
theorem comparePatterns_below (hfront : ∀ s ∈ front, LiteralSegment s) (hpath : front <+: Text.segments path)
    (h : other <+: front) (hne : other ≠ front) : comparePatterns path (below front) (below other) = .lt := by
  have hother : ∀ s ∈ other, LiteralSegment s := fun s hs => hfront s (h.subset hs)
  have hnonempty : front.isEmpty = false := by
    rw [Bool.eq_false_iff, ne_eq, List.isEmpty_iff]
    rintro rfl
    exact hne (List.prefix_nil.1 h)
  -- the path is not the shorter pattern, as its segments would not begin with those of the longer one
  have hexact : (below other != path) = true := by
    rw [bne_iff_ne]
    rintro rfl
    rw [segments_below fun s hs => (hother s hs).proper] at hpath
    have hback := prefix_of_prefix_concat (doubleStar_not_mem hfront) hpath
    exact hne (h.eq_of_length_le hback.length_le)
  have hlength := length_below_lt h hne
  rw [comparePatterns, specificity_below hfront, specificity_below hother, Specificity.compare]
  simp only [hnonempty, hexact]
  cases other with
  | nil => rfl
  | cons s other =>
    cases below front != path with
    | false => rfl
    | true =>
      have hlt : Ord.compare (below (s :: other)).length (below front).length = .lt := Nat.compare_eq_lt.2 hlength
      rw [hlt]
      rfl

/-! ## The longest prefix -/

/-- the segments of one of the patterns are at the front of the path's, and no other pattern has longer ones there -/
structure LongestPrefix (patterns : List Text) (path : Text) (front : List Text) : Prop where
  mem : below front ∈ patterns
  isPrefix : front <+: Text.segments path
  longest : ∀ other, below other ∈ patterns → other <+: Text.segments path → other.length ≤ front.length

theorem OfPrefixes.accepts_iff (h : OfPrefixes patterns) (hpath : Text.rooted path = true) :
    (q ∈ patterns ∧ pathMatches q path = true) ↔
      ∃ front, q = below front ∧ q ∈ patterns ∧ front <+: Text.segments path := by
  constructor
  · rintro ⟨hq, hmatch⟩
    obtain ⟨front, hfront, rfl⟩ := h q hq
    exact ⟨front, rfl, hq, (pathMatches_below_iff hfront hpath).1 hmatch⟩
  · rintro ⟨front, rfl, hq, hprefix⟩
    exact ⟨hq, (pathMatches_below_iff (h.literal hq hprefix) hpath).2 hprefix⟩

/-- **The most specific pattern is the one with the longest segments** -/
theorem mostSpecific_iff_longestPrefix (h : OfPrefixes patterns) (hpath : Text.rooted path = true) :
    MostSpecific patterns path q ↔ ∃ front, q = below front ∧ LongestPrefix patterns path front := by
  constructor
  · intro hq
    obtain ⟨front, rfl, hmem, hprefix⟩ := (h.accepts_iff hpath).1 ⟨hq.mem, hq.accepts⟩
    refine ⟨front, rfl, hmem, hprefix, fun other hother hoprefix => ?_⟩
    by_contra hlonger
    have hfront : front <+: other := List.prefix_of_prefix_length_le hprefix hoprefix (by omega)
    have hne : front ≠ other := fun e => hlonger (e ▸ le_rfl)
    have hbehind := comparePatterns_below (h.literal hother hoprefix) hoprefix hfront hne
    have haccepts := (h.accepts_iff hpath).2 ⟨other, rfl, hother, hoprefix⟩
    have hlength := length_below_lt hfront hne
    have hbefore := hq.first _ hother haccepts.2 fun e => by rw [e] at hlength; exact lt_irrefl _ hlength
    rw [comparePatterns_swap, hbehind] at hbefore
    cases hbefore
  · rintro ⟨front, rfl, hlongest⟩
    refine ⟨hlongest.mem, ((h.accepts_iff hpath).2 ⟨front, rfl, hlongest.mem, hlongest.isPrefix⟩).2,
      fun k hk hmatch hne => ?_⟩
    obtain ⟨other, rfl, -, hoprefix⟩ := (h.accepts_iff hpath).1 ⟨hk, hmatch⟩
    have hother := List.prefix_of_prefix_length_le hoprefix hlongest.isPrefix (hlongest.longest other hk hoprefix)
    exact comparePatterns_below (h.literal hlongest.mem hlongest.isPrefix) hlongest.isPrefix hother
      fun e => hne (congrArg below e)

/-- the pattern that is the path itself has the longest segments -/
theorem OfPrefixes.mostSpecific_path (h : OfPrefixes patterns) (hpath : path ∈ patterns) :
    MostSpecific patterns path path := by
  obtain ⟨front, hfront, rfl⟩ := h path hpath
  have hsegments := segments_below fun s hs => (hfront s hs).proper
  refine (mostSpecific_iff_longestPrefix h (rooted_below front)).2 ⟨front, rfl, hpath, ?_, fun other hother hprefix => ?_⟩
  · rw [hsegments]
    exact List.prefix_append _ _
  · have hliteral := h.literal hother hprefix
    rw [hsegments] at hprefix
    exact (prefix_of_prefix_concat (doubleStar_not_mem hliteral) hprefix).length_le

/-- **Mappings of prefixes route by the longest prefix.** Where each pattern is `/**` behind literal segments, a rooted
path is led to the pattern with the most segments among those whose segments are at the front of the path's, and to none
just if there is none. A provider with the same patterns selects the same one. -/
theorem lookup?_longestPrefix (h : OfPrefixes m.patterns) (hpath : Text.rooted path = true) :
    (∀ q, (m.lookup? .standard path).map (·.pattern) = some q ↔
      ∃ front, q = below front ∧ LongestPrefix m.patterns path front) ∧
    (m.lookup? .standard path = none ↔ ∀ front, below front ∈ m.patterns → ¬ front <+: Text.segments path) ∧
    ∀ p : Provider, p.matcher = .standard → (∀ k, k ∈ p.handlers.keys ↔ k ∈ m.patterns) →
      (bestMatch? p.matcher path p.handlers.toList).map (·.1) = (m.lookup? .standard path).map (·.pattern) := by
  have hfirst : path ∈ m.patterns → MostSpecific m.patterns path path := h.mostSpecific_path
  refine ⟨fun q => ?_, ?_, bestMatch?_provider hfirst⟩
  · rw [lookup?_pattern_eq_some_iff hfirst, mostSpecific_iff_longestPrefix h hpath]
  · rw [lookup?_eq_none_iff hfirst]
    constructor
    · intro hnone front hin hprefix
      have hmatch := (h.accepts_iff hpath).2 ⟨front, rfl, hin, hprefix⟩
      exact Bool.eq_false_iff.1 (hnone _ hin) hmatch.2
    · intro hnone k hk
      rw [Bool.eq_false_iff]
      intro hmatch
      obtain ⟨front, rfl, hin, hprefix⟩ := (h.accepts_iff hpath).1 ⟨hk, hmatch⟩
      exact hnone front hin hprefix

/-- three nested prefixes -/
def nested : Mapping where
  name := "files".toList
  order := 0
  entries := ⟨[("/**".toList, .endpoint ['a']), ("/a/**".toList, .endpoint ['b']),
    ("/a/b/**".toList, .endpoint ['c'])], by decide⟩
  kept := by decide

theorem nested_ofPrefixes : OfPrefixes nested.patterns := by
  have ha : LiteralSegment ['a'] := ⟨by decide, by decide⟩
  have hb : LiteralSegment ['b'] := ⟨by decide, by decide⟩
  intro k hk
  have hpatterns : k = "/**".toList ∨ k = "/a/**".toList ∨ k = "/a/b/**".toList := by
    simpa [nested, Mapping.patterns, Bindings.keys] using hk
  rcases hpatterns with rfl | rfl | rfl
  · exact ⟨[], by simp, rfl⟩
  · exact ⟨[['a']], by simpa using ha, rfl⟩
  · exact ⟨[['a'], ['b']], by simpa using ⟨ha, hb⟩, rfl⟩

/-- slashes in a row and at the end do not count, and the text of a pattern is led to the pattern -/
theorem lookup?_longestPrefix_nested :
    (∃ front, "/a/b/**".toList = below front ∧ LongestPrefix nested.patterns "/a//b/c/".toList front) ∧
      ∃ front, "/a/**".toList = below front ∧ LongestPrefix nested.patterns "/a/**".toList front := by
  have hslashes : Text.rooted "/a//b/c/".toList = true := rfl
  have htext : Text.rooted "/a/**".toList = true := rfl
  obtain ⟨hlonger, -⟩ := lookup?_longestPrefix nested_ofPrefixes hslashes
  obtain ⟨hsame, -⟩ := lookup?_longestPrefix nested_ofPrefixes htext
  exact ⟨(hlonger _).1 (by decide +kernel), (hsame _).1 (by decide +kernel)⟩

end ResourceServer.Routing
