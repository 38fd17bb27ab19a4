/-
Public URLs of request URLs that share the context path of the current request.

- `lookupPosition?_append`: a lookup path that ends the request path is found there.
- `forRequestUrl_under`: behind a settled context path, a request URL has the public URL of its rest, with the context
  path in front; nothing behind the context path is no URL that could be cut.
-/
import ResourceServer.Proofs.Request.LookupPath
import ResourceServer.Proofs.Server.State
import ResourceServer.PublicUrl.Lookup

namespace ResourceServer

open Files Request PublicUrl

namespace PublicUrl.Provider

variable {p : Provider} {r : ResourceRequest} {front path c q : Text}

theorem lookupPosition?_append (front lookup : Text) :
    lookupPosition? lookup (front ++ lookup) = some (Text.byteLength front) := by
  rw [lookupPosition?, Text.beforeBack?, List.isSuffixOf?_eq_some_iff_append_eq.2 rfl]

/-- what a request URL is cut into, given the position of the lookup path in the request path -/
theorem forRequestUrl_of_position {position : ℕ} (tree : FileTree)
    (h : lookupPosition? (r.attachedPath.getD (p.options.lookupPath r)) (p.options.requestUri r) = some position)
    (url : Text) :
    p.forRequestUrl tree r url =
      if position < Text.byteLength url then
        match Text.cutAtByte? position url with
        | none => .error (.mismatch url)
        | some (before, path) => (p.forLookupPath tree path).map fun found => found.map (before ++ ·)
      else .error (.mismatch url) := by
  rw [forRequestUrl]
  split
  · rename_i hnone
    rw [hnone] at h
    cases h
  · rename_i hsome
    rw [hsome] at h
    cases h
    rfl

/-- what a request URL is cut into when the lookup path ends the request path -/
theorem forRequestUrl_of_suffix (tree : FileTree)
    (h : p.options.requestUri r = front ++ r.attachedPath.getD (p.options.lookupPath r)) (url : Text) :
    p.forRequestUrl tree r url =
      if Text.byteLength front < Text.byteLength url then
        match Text.cutAtByte? (Text.byteLength front) url with
        | none => .error (.mismatch url)
        | some (before, path) => (p.forLookupPath tree path).map fun found => found.map (before ++ ·)
      else .error (.mismatch url) :=
  forRequestUrl_of_position tree (h ▸ lookupPosition?_append front _) url

/-- **Context paths carry over.** Below a settled context path, the public URL of a request URL is that of its path
behind the context path, with the context path in front. A URL that ends there has none. -/
theorem forRequestUrl_under (p : Provider) (tree : FileTree) (hc : Settled c) (hq : Text.rooted q = true) :
    (∀ path, path ≠ [] → p.forRequestUrl tree (.under c (c ++ q)) (c ++ path) =
      (p.forLookupPath tree path).map fun found => found.map (c ++ ·)) ∧
    p.forRequestUrl tree (.under c (c ++ q)) c = .error (.mismatch c) := by
  have huri : p.options.requestUri (.under c (c ++ q)) =
      c ++ (ResourceRequest.under c (c ++ q)).attachedPath.getD (p.options.lookupPath (.under c (c ++ q))) := by
    rw [p.options.lookupPath_under hc hq, p.options.requestUri_under hc]
    rfl
  refine ⟨fun path hpath => ?_, ?_⟩
  · have hlt : Text.byteLength c < Text.byteLength (c ++ path) := by
      rw [Text.byteLength_append]
      exact Nat.lt_add_of_pos_right (Text.byteLength_pos hpath)
    rw [forRequestUrl_of_suffix tree huri, if_pos hlt, Text.cutAtByte?_byteLength]
  · rw [forRequestUrl_of_suffix tree huri, if_neg (Nat.lt_irrefl _)]

/-- a context path beyond ASCII, and a current request with a doubled slash, a parameter and an escape that does not
decode -/
theorem forRequestUrl_under_sample :
    Settled "/größe".toList ∧ Text.rooted "//r/%FF;v=1".toList = true ∧
      sampleState.provider.forRequestUrl sampleTree (.under "/größe".toList "/größe//r/%FF;v=1".toList)
        "/größe/r/a/x.txt".toList = .ok (some "/größe/r/a/x.txt".toList) ∧
      sampleState.provider.forRequestUrl sampleTree (.under "/größe".toList "/größe//r/%FF;v=1".toList)
        "/größe".toList = .error (.mismatch "/größe".toList) := by
  have hc : Settled "/größe".toList := by decide
  have hq : Text.rooted "//r/%FF;v=1".toList = true := rfl
  have hfound : sampleState.provider.forLookupPath sampleTree "/r/a/x.txt".toList =
      .ok (some "/r/a/x.txt".toList) := by
    decide +kernel
  obtain ⟨hpath, hnone⟩ := forRequestUrl_under sampleState.provider sampleTree hc hq
  have h := hpath "/r/a/x.txt".toList (by decide)
  rw [hfound] at h
  exact ⟨hc, hq, h, hnone⟩

end PublicUrl.Provider

end ResourceServer
