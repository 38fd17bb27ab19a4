/-
The root of an application, with and without a slash at its end.

A request for the context path itself is looked up by `/`, just as one for the context path with a slash behind it. But
this slash is put there by the reading of the path and does not end the path of the request; the search for it goes on
to the first slash there is, which begins the context path. Request URLs are then cut in front of the context path.
- `forRequestUrl_slash`: with a slash at the end, a request URL is cut behind as many bytes as the context path takes.
- `forRequestUrl_bare`: without it, a request URL is looked up as a whole.
- `forRequestUrl_root`: when the two give the same answer.
- `bare_root_unprefixed`: a URL that one finds and the other does not.
-/
import ResourceServer.Proofs.PublicUrl.RequestUrl
import ResourceServer.Proofs.PublicUrl.Segments

namespace ResourceServer

open Files Request PublicUrl

namespace PublicUrl.Provider

variable {p : Provider} {r : ResourceRequest} {front path c url : Text} {position : ℕ}

/-! ## Cuts of a request URL -/

section

variable (tree : FileTree)
  (h : lookupPosition? (r.attachedPath.getD (p.options.lookupPath r)) (p.options.requestUri r) = some position)

include h

/-- a URL that has a cut at the position is looked up by what is behind it -/
theorem forRequestUrl_of_cut (hfront : Text.byteLength front = position) (hpath : path ≠ []) :
    p.forRequestUrl tree r (front ++ path) = (p.forLookupPath tree path).map fun found => found.map (front ++ ·) := by
  have hlt : position < Text.byteLength (front ++ path) := by
    rw [Text.byteLength_append, hfront]
    exact Nat.lt_add_of_pos_right (Text.byteLength_pos hpath)
  have hcut : Text.cutAtByte? position (front ++ path) = some (front, path) :=
    Text.cutAtByte?_eq_some_iff.2 ⟨rfl, hfront⟩
  rw [forRequestUrl_of_position tree h, if_pos hlt, hcut]

/-- a URL without such a cut, or with nothing behind it, is refused -/
theorem forRequestUrl_of_no_cut
    (hno : ∀ front path, url = front ++ path → Text.byteLength front = position → path = []) :
    p.forRequestUrl tree r url = .error (.mismatch url) := by
  rw [forRequestUrl_of_position tree h]
  split_ifs with hlt
  · cases hcut : Text.cutAtByte? position url with
    | none => rfl
    | some parts =>
      obtain ⟨hurl, hfront⟩ := Text.cutAtByte?_eq_some_iff.1 hcut
      rw [hurl, hno _ _ hurl hfront, List.append_nil, hfront] at hlt
      exact absurd hlt (Nat.lt_irrefl _)
  · rfl

end

/-- a look-up may be unresolved, but it cuts nothing -/
theorem forLookupPath_ne_mismatch (p : Provider) (tree : FileTree) (path url : Text) :
    p.forLookupPath tree path ≠ .error (.mismatch url) := by
  rw [forLookupPath, forLookupPathAmong]
  split
  · simp
  · dsimp only
    split <;> simp

/-! ## The two requests -/

theorem lookupPath_slash (o : PathOptions) (hc : Settled c) : o.lookupPath (.under c (c ++ ['/'])) = ['/'] := by
  rw [o.lookupPath_under hc rfl, o.clean_slash]

theorem lookupPath_bare (o : PathOptions) (hc : Settled c) : o.lookupPath (.under c c) = ['/'] := by
  have h := o.withinApplication_settled hc [] [] none
  rw [List.append_nil, o.clean_nil, if_pos rfl] at h
  rw [ResourceRequest.under, o.lookupPath_of_no_servlet, h]

/-- the slash at the end stands behind the context path -/
theorem position_slash (o : PathOptions) (hc : Settled c) :
    lookupPosition? (o.lookupPath (.under c (c ++ ['/']))) (o.requestUri (.under c (c ++ ['/']))) =
      some (Text.byteLength c) := by
  rw [lookupPath_slash o hc, o.requestUri_under hc, o.clean_slash]
  exact lookupPosition?_append c ['/']

/-- without it, the first slash is the one that begins the context path -/
theorem position_bare (o : PathOptions) (hc : Settled c) (hr : Text.rooted c = true) :
    lookupPosition? (o.lookupPath (.under c c)) (o.requestUri (.under c c)) = some 0 := by
  have huri : o.requestUri (.under c c) = c := o.clean_settled hc
  have hback : Text.beforeBack? ['/'] c = none := by
    rw [Option.eq_none_iff_forall_ne_some]
    intro front hfront
    have hclosed := hc.not_closed
    rw [← List.isSuffixOf?_eq_some_iff_append_eq.1 hfront, Text.closed, List.getLast?_concat] at hclosed
    cases hclosed
  obtain ⟨rest, hrest⟩ := Text.rooted_iff.1 hr
  rw [lookupPath_bare o hc, huri, lookupPosition?, hback, hrest]
  rfl

/-- with the slash, a request URL is cut behind as many bytes as the context path takes -/
theorem forRequestUrl_slash (p : Provider) (tree : FileTree) (hc : Settled c) :
    (∀ front path, Text.byteLength front = Text.byteLength c → path ≠ [] →
      p.forRequestUrl tree (.under c (c ++ ['/'])) (front ++ path) =
        (p.forLookupPath tree path).map fun found => found.map (front ++ ·)) ∧
    ∀ url, (∀ front path, url = front ++ path → Text.byteLength front = Text.byteLength c → path = []) →
      p.forRequestUrl tree (.under c (c ++ ['/'])) url = .error (.mismatch url) :=
  ⟨fun _ _ hfront hpath => forRequestUrl_of_cut tree (position_slash p.options hc) hfront hpath,
    fun _ hno => forRequestUrl_of_no_cut tree (position_slash p.options hc) hno⟩

/-- without it, a request URL is looked up as a whole -/
theorem forRequestUrl_bare (p : Provider) (tree : FileTree) (hc : Settled c) (hr : Text.rooted c = true) (url : Text) :
    p.forRequestUrl tree (.under c c) url = if url = [] then .error (.mismatch url) else p.forLookupPath tree url := by
  have hposition := position_bare p.options hc hr
  split_ifs with hurl
  · refine forRequestUrl_of_no_cut tree hposition fun front path hparts _ => ?_
    exact (List.append_eq_nil_iff.1 (hparts.symm.trans hurl)).2
  · have hcut : p.forRequestUrl tree (.under c c) ([] ++ url) =
        (p.forLookupPath tree url).map fun found => found.map ([] ++ ·) :=
      forRequestUrl_of_cut tree hposition rfl hurl
    rw [List.nil_append] at hcut
    rw [hcut]
    cases p.forLookupPath tree url with
    | error e => rfl
    | ok found => cases found <;> rfl

/-- **The root of an application.** A request for a settled context path and one for it with a slash behind are both
looked up by `/`. But a request URL is looked up as a whole for the first, and cut behind as many bytes as the context
path takes for the second. The answers are the same just if the URL is empty, or if it has this cut and its own look-up
gives what the look-up of its rest gives with the front of the cut before it. -/
theorem forRequestUrl_root (p : Provider) (tree : FileTree) (hc : Settled c) (hr : Text.rooted c = true) (url : Text) :
    p.options.lookupPath (.under c c) = ['/'] ∧
    p.options.lookupPath (.under c (c ++ ['/'])) = ['/'] ∧
    p.forRequestUrl tree (.under c c) url = (if url = [] then .error (.mismatch url) else p.forLookupPath tree url) ∧
    (∀ front path, url = front ++ path → Text.byteLength front = Text.byteLength c → path ≠ [] →
      p.forRequestUrl tree (.under c (c ++ ['/'])) url =
        (p.forLookupPath tree path).map fun found => found.map (front ++ ·)) ∧
    (p.forRequestUrl tree (.under c c) url = p.forRequestUrl tree (.under c (c ++ ['/'])) url ↔
      url = [] ∨ ∃ front path, url = front ++ path ∧ Text.byteLength front = Text.byteLength c ∧ path ≠ [] ∧
        p.forLookupPath tree url = (p.forLookupPath tree path).map fun found => found.map (front ++ ·)) := by
  have hbare := p.forRequestUrl_bare tree hc hr url
  obtain ⟨hcut, hrefused⟩ := p.forRequestUrl_slash tree hc
  refine ⟨lookupPath_bare p.options hc, lookupPath_slash p.options hc, hbare, ?_, ?_⟩
  · rintro front path rfl hfront hpath
    exact hcut front path hfront hpath
  rw [hbare]
  by_cases hurl : url = []
  · have hnone := hrefused url fun front path hparts _ => (List.append_eq_nil_iff.1 (hparts.symm.trans hurl)).2
    rw [if_pos hurl, hnone]
    exact iff_of_true rfl (.inl hurl)
  · rw [if_neg hurl, or_iff_right hurl]
    constructor
    · intro hsame
      by_contra hno
      -- a URL without a cut is refused, which no look-up does
      have hnone := hrefused url fun front path hparts hfront => by
        by_contra hpath
        refine hno ⟨front, path, hparts, hfront, hpath, ?_⟩
        rw [hsame, hparts, hcut front path hfront hpath]
      exact p.forLookupPath_ne_mismatch tree url url (hsame.trans hnone)
    · rintro ⟨front, path, rfl, hfront, hpath, hfound⟩
      rw [hfound, hcut front path hfront hpath]

/-- a URL that no pattern matches, with the context path or without -/
theorem forRequestUrl_root_unmatched :
    Settled "/größe".toList ∧ Text.rooted "/größe".toList = true ∧
      identityProvider.forRequestUrl sampleTree (.under "/größe".toList "/größe".toList) "/größe/app.js".toList =
        identityProvider.forRequestUrl sampleTree (.under "/größe".toList "/größe/".toList) "/größe/app.js".toList := by
  have hc : Settled "/größe".toList := by decide
  have hr : Text.rooted "/größe".toList = true := rfl
  have hwhole : identityProvider.forLookupPath sampleTree "/größe/app.js".toList = .ok none := by decide +kernel
  have hrest : identityProvider.forLookupPath sampleTree "/app.js".toList = .ok none := by decide +kernel
  obtain ⟨-, -, -, -, hsame⟩ := identityProvider.forRequestUrl_root sampleTree hc hr "/größe/app.js".toList
  refine ⟨hc, hr, hsame.2 (.inr ⟨"/größe".toList, "/app.js".toList, rfl, rfl, by decide, ?_⟩)⟩
  rw [hwhole, hrest]
  rfl

/-- a URL of the application is found from the root with a slash, and not from the one without -/
theorem bare_root_unprefixed :
    Settled "/ctx".toList ∧ Text.rooted "/ctx".toList = true ∧
      identityProvider.options.lookupPath (.under "/ctx".toList "/ctx".toList) = ['/'] ∧
      identityProvider.options.lookupPath (.under "/ctx".toList "/ctx/".toList) = ['/'] ∧
      identityProvider.forRequestUrl sampleTree (.under "/ctx".toList "/ctx".toList) "/ctx/r/app.js".toList = .ok none ∧
      identityProvider.forRequestUrl sampleTree (.under "/ctx".toList "/ctx/".toList) "/ctx/r/app.js".toList =
        .ok (some "/ctx/r/app.js".toList) := by
  decide +kernel

end PublicUrl.Provider

end ResourceServer
