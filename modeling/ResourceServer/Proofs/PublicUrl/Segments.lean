/-
What a public URL keeps of its lookup path.

The part of a path within a pattern is put together from segments, and it is cut off the path as a text. Where the text
does not occur at the end of the path, the front that is kept belongs to an earlier occurrence, or is lost.
- `splitLookup_cases`: what the two parts of a path can be.
- `forLookupPath_eq_some`: a handler that changes no path gives both parts back, one behind the other.
- `forLookupPath_segments`: the URL keeps the segments just if it is the path up to slashes at its end, which it is for
  every path without slashes at its end and without two in a row.
- `front_lost`: two slashes in a row within the part that a pattern leaves open cost the front.
-/
import ResourceServer.Proofs.PublicUrl.Agreement
import ResourceServer.Proofs.Resource.Chain

namespace ResourceServer

open Files (FileTree)
open Routing Resource Glob PublicUrl

variable {tree : FileTree} {path within front u : Text}

/-! ## The parts of a path -/

/-- the parts make up the path, or end before its end, or the front is lost -/
theorem splitLookup_cases (path : Text) (isLiteral : Bool) (within : Text) :
    ∃ front rest, splitLookup path isLiteral within = (front, rest) ∧
      (front ++ rest = path ∨ rest = within ∧ within ≠ [] ∧ (front = [] ∨ ∃ tail, path = front ++ rest ++ tail)) := by
  by_cases hliteral : (isLiteral && within.isEmpty) = true
  · refine ⟨_, _, by rw [splitLookup, if_pos hliteral], .inl ?_⟩
    exact List.takeWhile_append_dropWhile
  · rw [splitLookup, if_neg hliteral]
    cases hback : Text.beforeBack? within path with
    | some front =>
      have hwhole : front ++ within = path := List.isSuffixOf?_eq_some_iff_append_eq.1 hback
      exact ⟨front, within, rfl, .inl hwhole⟩
    | none =>
      have hne : within ≠ [] := by
        -- the empty text ends every path
        rintro rfl
        have hnil : Text.beforeBack? [] path = some path :=
          List.isSuffixOf?_eq_some_iff_append_eq.2 (List.append_nil path)
        rw [hback] at hnil
        cases hnil
      cases hfirst : Text.beforeFirst? within path with
      | none => exact ⟨[], within, rfl, .inr ⟨rfl, hne, .inl rfl⟩⟩
      | some front => exact ⟨front, within, rfl, .inr ⟨rfl, hne, .inr (Text.beforeFirst?_eq_some hfirst)⟩⟩

/-- what a pattern leaves open does not begin with a slash -/
theorem rooted_pathWithin {pattern : Text} (hp : Text.rooted pattern = true) (path : Text) :
    Text.rooted (pathWithin pattern path) = false := by
  rw [pathWithin_of_rooted hp]
  cases (Text.segments pattern).findIdx? hasWildcard with
  | none => rfl
  | some start =>
    refine Text.rooted_of_trimSlashes_eq (Text.trimSlashes_join fun s hs => ?_)
    exact Text.proper_of_mem_segments (List.mem_of_mem_drop hs)

/-! ## Handlers that change no path -/

/-- the public path of a resource, if it has one, is the path it is asked for -/
def KeepsPaths (tree : FileTree) (h : ResourceHandler) : Prop := ∀ path u, h.publicPath? tree path = some u → u = path

theorem keepsPaths_plain (tree : FileTree) (locations : List Text) : KeepsPaths tree (.plain locations) := by
  intro path u hu
  rw [plain_publicPath?] at hu
  obtain ⟨place, -, rfl⟩ := Option.map_eq_some_iff.1 hu
  rfl

/-- a public URL is made of the parts of the path for a pattern that matches it -/
theorem forLookupPath_eq_some {p : Provider} (hm : p.matcher = .standard)
    (hkeeps : ∀ e ∈ p.handlers, KeepsPaths tree e.2) (hu : p.forLookupPath tree path = .ok (some u)) :
    ∃ pattern front rest, pathMatches pattern path = true ∧
      splitLookup path (!isPattern pattern) (pathWithin pattern path) = (front, rest) ∧ u = front ++ rest := by
  cases hbest : bestMatch? PathMatcher.standard path p.handlers.toList with
  | none =>
    rw [forLookupPath_of_none tree hm hbest] at hu
    cases hu
  | some e =>
    obtain ⟨hin, hmatch⟩ := bestMatch?_mem hbest
    obtain ⟨front, rest, hcut, -⟩ := splitLookup_cases path (!isPattern e.1) (pathWithin e.1 path)
    rw [forLookupPath_of_best tree hm hbest hcut, partsAnswer_eq_some_iff] at hu
    obtain ⟨found, hpublic, rfl⟩ := hu
    rw [hkeeps e hin rest found hpublic]
    exact ⟨e.1, front, rest, hmatch, hcut, rfl⟩

/-! ## Segments -/

/-- the whole path, or a text with something left open at its end: the front of the path, or nothing else -/
theorem forLookupPath_parts {p : Provider} (hm : p.matcher = .standard)
    (hkeeps : ∀ e ∈ p.handlers, KeepsPaths tree e.2) (hr : Text.rooted path = true)
    (hu : p.forLookupPath tree path = .ok (some u)) :
    u = path ∨ u ≠ [] ∧ (Text.rooted u = false ∨ ∃ tail, path = u ++ tail) := by
  obtain ⟨pattern, front, rest, hmatch, hcut, rfl⟩ := forLookupPath_eq_some hm hkeeps hu
  have hpattern : Text.rooted pattern = true := ((pathMatches_iff_accords _ _).1 hmatch).1.trans hr
  obtain ⟨front', rest', hcut', hparts⟩ := splitLookup_cases path (!isPattern pattern) (pathWithin pattern path)
  rw [hcut] at hcut'
  cases hcut'
  rcases hparts with hwhole | ⟨rfl, hne, rfl | hfront⟩
  · exact .inl hwhole
  · exact .inr ⟨hne, .inl (rooted_pathWithin hpattern path)⟩
  · exact .inr ⟨fun hnil => hne (List.append_eq_nil_iff.1 hnil).2, .inr hfront⟩

/-- a neat path is given back -/
theorem forLookupPath_neat {p : Provider} (hm : p.matcher = .standard)
    (hkeeps : ∀ e ∈ p.handlers, KeepsPaths tree e.2) (hn : Text.Neat path)
    (hu : p.forLookupPath tree path = .ok (some u)) : u = path := by
  obtain ⟨pattern, front, rest, hmatch, hcut, rfl⟩ := forLookupPath_eq_some hm hkeeps hu
  obtain ⟨front', rest', hcut', hwhole, -⟩ := splitLookup_parts hmatch hn
  rw [hcut] at hcut'
  cases hcut'
  exact hwhole.symm

/-- **What a public URL keeps.** With handlers that change no path, the public URL of a rooted path is rooted and has
the segments of the path just if it is the path up to slashes at its end. For a path without slashes at its end and
without two in a row it is the path. -/
theorem forLookupPath_segments {p : Provider} (hm : p.matcher = .standard)
    (hkeeps : ∀ e ∈ p.handlers, KeepsPaths tree e.2) (hr : Text.rooted path = true)
    (hu : p.forLookupPath tree path = .ok (some u)) :
    ((Text.rooted u = true ∧ Text.segments u = Text.segments path) ↔ ∃ n, path = u ++ List.replicate n '/') ∧
    (¬ Text.Doubled path → Text.closed path = false → u = path) := by
  refine ⟨⟨?_, ?_⟩, fun hsingle hclosed => forLookupPath_neat hm hkeeps ⟨hr, hsingle, hclosed⟩ hu⟩
  · rintro ⟨hrooted, hsegments⟩
    rcases forLookupPath_parts hm hkeeps hr hu with rfl | ⟨-, hlost | ⟨tail, rfl⟩⟩
    · exact ⟨0, (List.append_nil _).symm⟩
    · rw [hrooted] at hlost
      cases hlost
    · obtain ⟨n, rfl⟩ := Text.eq_slashes_of_segments_append hsegments.symm
      exact ⟨n, rfl⟩
  · rintro ⟨n, hpath⟩
    have hne : u ≠ [] := by
      rcases forLookupPath_parts hm hkeeps hr hu with rfl | ⟨hne, -⟩
      · rintro rfl
        cases hr
      · exact hne
    obtain ⟨c, u, rfl⟩ := List.exists_cons_of_ne_nil hne
    obtain ⟨rest, hrest⟩ := Text.rooted_iff.1 hr
    rw [hpath, List.cons_append, List.cons.injEq] at hrest
    refine ⟨Text.rooted_iff.2 ⟨u, by rw [hrest.1]⟩, ?_⟩
    rw [hpath, Text.segments_append_slashes]

/-- slashes in a row in front of the part that is left open do no harm -/
theorem forLookupPath_segments_sample :
    ∃ u, sampleState.provider.forLookupPath sampleTree "//r///a/x.txt".toList = .ok (some u) ∧
      Text.rooted u = true ∧ Text.segments u = Text.segments "//r///a/x.txt".toList := by
  have hkeeps : ∀ e ∈ sampleState.provider.handlers, KeepsPaths sampleTree e.2 := by
    intro e he
    have hplain : e = ("/r/**".toList, .plain ["/none".toList, "/srv/site".toList]) := List.mem_singleton.1 he
    rw [hplain]
    exact keepsPaths_plain _ _
  have hu : sampleState.provider.forLookupPath sampleTree "//r///a/x.txt".toList =
      .ok (some "//r///a/x.txt".toList) := by
    decide +kernel
  exact ⟨_, hu, (forLookupPath_segments rfl hkeeps rfl hu).1.2 ⟨0, rfl⟩⟩

/-! ## A front that is lost -/

/-- a provider with a handler below `/r` that answers every path with itself -/
def identityProvider : Provider := Provider.initial.configure [("/r/**".toList, ⟨[], [identityResolver]⟩)]

/-- of `/r/js//app.js` the front is lost, and of `/r/r/` one segment -/
theorem front_lost :
    identityProvider.forLookupPath sampleTree "/r/js//app.js".toList = .ok (some "js/app.js".toList) ∧
      Text.rooted "js/app.js".toList = false ∧
      Text.segments "js/app.js".toList ≠ Text.segments "/r/js//app.js".toList ∧
      identityProvider.forLookupPath sampleTree "/r/r/".toList = .ok (some "/r".toList) ∧
      Text.segments "/r".toList ≠ Text.segments "/r/r/".toList := by
  decide +kernel

end ResourceServer
