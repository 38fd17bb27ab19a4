/-
The two parts of a lookup path: the front that is kept, and the part that the handler of the selected pattern is asked
for.

The part is put together from segments and then looked for at the end of the path as a text. In a neat path it stands
there, whatever texts occur twice, and what is in front of it is kept.
- `Split`: the handler of the most specific pattern and the two parts; `Split.unique`: a path has one split at most.
- `forLookupPath_split`: the answer for a neat path is the front and what the handler's chain makes of the part, or the
  error that the chain makes nothing of it.
-/
import ResourceServer.Proofs.PublicUrl.Segments

namespace ResourceServer

open Files (FileTree)
open Routing Resource Glob PublicUrl

variable {tree : FileTree} {pattern path : Text} {handlers : Bindings ResourceHandler} {p : Provider}

/-! ## The handler that is asked -/

/-- the handler of the most specific pattern for a path, and the two parts of the path -/
structure Split (handlers : Bindings ResourceHandler) (path pattern : Text) (f : ResourceHandler)
    (front within : Text) : Prop where
  mostSpecific : MostSpecific handlers.keys path pattern
  bound : (pattern, f) ∈ handlers
  whole : path = front ++ within
  part : PartWithin pattern path within

theorem Split.unique {pattern pattern' front front' within within' : Text} {f f' : ResourceHandler}
    (hn : Text.Neat path) (h : Split handlers path pattern f front within)
    (h' : Split handlers path pattern' f' front' within') : f = f' ∧ front = front' ∧ within = within' := by
  obtain rfl := h.mostSpecific.eq h'.mostSpecific
  obtain rfl := h.part.unique h'.part (rooted_of_pathMatches h.mostSpecific.accepts hn)
  have hpair : (pattern, f) = (pattern, f') := Bindings.eq_of_mem h.bound h'.bound rfl
  exact ⟨congrArg Prod.snd hpair, List.append_cancel_right (h.whole.symm.trans h'.whole), rfl⟩

/-- a provider answers with the parts of the path, or has no pattern that matches -/
theorem forLookupPath_cases (hm : p.matcher = .standard) (hn : Text.Neat path) (tree : FileTree) :
    (p.forLookupPath tree path = .ok none ∧ ∀ k ∈ p.handlers.keys, pathMatches k path = false) ∨
      ∃ pattern f front within, Split p.handlers path pattern f front within ∧
        p.forLookupPath tree path = partsAnswer tree f front within := by
  cases hbest : bestMatch? PathMatcher.standard path p.handlers.toList with
  | none =>
    refine .inl ⟨forLookupPath_of_none tree hm hbest, fun k hk => ?_⟩
    obtain ⟨e, he, rfl⟩ := List.mem_map.1 hk
    exact bestMatch?_eq_none_iff.1 hbest e he
  | some e =>
    obtain ⟨hmost, hbound⟩ := bestMatch?_eq_some_iff.1 hbest
    obtain ⟨front, within, hcut, hwhole, hpart⟩ := splitLookup_parts hmost.accepts hn
    exact .inr ⟨e.1, e.2, front, within, ⟨hmost, hbound, hwhole, hpart⟩, forLookupPath_of_best tree hm hbest hcut⟩

/-- **The split of a lookup path.** A neat path that some pattern matches is split for the handler of the most specific
one. Its public URL is the front of the path and what the handler's chain makes of the part within the pattern, which is
the rest of the path. It is unresolved, with this part named, just if the chain makes nothing of it. -/
theorem forLookupPath_split (hm : p.matcher = .standard) (hn : Text.Neat path) (tree : FileTree) :
    (∀ u, p.forLookupPath tree path = .ok (some u) ↔ ∃ pattern f front within found,
      Split p.handlers path pattern f front within ∧ f.publicPath? tree within = some found ∧ u = front ++ found) ∧
    (∀ w, p.forLookupPath tree path = .error (.unresolved w) ↔ ∃ pattern f front,
      Split p.handlers path pattern f front w ∧ f.publicPath? tree w = none) ∧
    ((∃ k ∈ p.handlers.keys, pathMatches k path = true) ↔
      ∃ pattern f front within, Split p.handlers path pattern f front within) ∧
    (p.forLookupPath tree path = .ok none ↔ ∀ k ∈ p.handlers.keys, pathMatches k path = false) := by
  rcases forLookupPath_cases hm hn tree with ⟨hanswer, hnone⟩ | ⟨pattern, f, front, within, hsplit, hanswer⟩
  · have hno : ∀ pattern f front within, ¬ Split p.handlers path pattern f front within := by
      intro pattern f front within h
      exact Bool.eq_false_iff.1 (hnone _ h.mostSpecific.mem) h.mostSpecific.accepts
    rw [hanswer]
    exact ⟨fun u => by simp [hno], fun w => by simp [hno], by simpa [hno] using hnone, by simpa using hnone⟩
  · have hmatch : ¬ ∀ k ∈ p.handlers.keys, pathMatches k path = false :=
      fun h => Bool.eq_false_iff.1 (h _ hsplit.mostSpecific.mem) hsplit.mostSpecific.accepts
    rw [hanswer]
    refine ⟨fun u => ?_, fun w => ?_, iff_of_true ⟨pattern, hsplit.mostSpecific.mem, hsplit.mostSpecific.accepts⟩
      ⟨pattern, f, front, within, hsplit⟩, iff_of_false (partsAnswer_ne_none tree f front within) hmatch⟩
    · rw [partsAnswer_eq_some_iff]
      constructor
      · rintro ⟨found, hfound, hu⟩
        exact ⟨pattern, f, front, within, found, hsplit, hfound, hu⟩
      · rintro ⟨_, _, _, _, found, hsplit', hfound, hu⟩
        obtain ⟨rfl, rfl, rfl⟩ := hsplit.unique hn hsplit'
        exact ⟨found, hfound, hu⟩
    · rw [partsAnswer_eq_error_iff]
      constructor
      · rintro ⟨hfound, hw⟩
        cases hw
        exact ⟨pattern, f, front, hsplit, hfound⟩
      · rintro ⟨_, _, _, hsplit', hfound⟩
        obtain ⟨rfl, rfl, rfl⟩ := hsplit.unique hn hsplit'
        exact ⟨hfound, rfl⟩

/-- a provider with a handler below `/app.js` that adds a version, and a handler that resolves nothing -/
def versionedProvider : Provider :=
  Provider.initial.configure [("/app.js/*".toList, ⟨[], [versionResolver "v1".toList, identityResolver]⟩),
    ("/**".toList, ⟨[], []⟩)]

/-- the part occurs at the front of the path as well; another path is unresolved -/
theorem forLookupPath_split_versioned :
    (∃ pattern f front within found, Split versionedProvider.handlers "/app.js/app.js".toList pattern f front within ∧
      f.publicPath? sampleTree within = some found ∧ "/app.js/v1/app.js".toList = front ++ found) ∧
    ∃ pattern f front, Split versionedProvider.handlers "/b/app.js".toList pattern f front "b/app.js".toList ∧
      f.publicPath? sampleTree "b/app.js".toList = none := by
  have hm : versionedProvider.matcher = .standard := rfl
  have hrepeated : Text.Neat "/app.js/app.js".toList := by decide
  have hother : Text.Neat "/b/app.js".toList := by decide
  obtain ⟨hfound, -⟩ := forLookupPath_split hm hrepeated sampleTree
  obtain ⟨-, hunresolved, -⟩ := forLookupPath_split hm hother sampleTree
  exact ⟨(hfound _).1 (by decide +kernel), (hunresolved _).1 (by decide +kernel)⟩

end ResourceServer
