/-
Public URLs and files agree.

The server looks a path up in its route table and the provider looks it up among its patterns; both are searches of
their own, and they cut the path in different ways. For a neat path without wildcards, and settings that leave the
public patterns to detection, they come to the same mapping and to the same resource path:
- `splitLookup_parts`: the provider cuts the path where the part within the pattern begins.
- `lookup?_agrees`: both find nothing, or both find the handler, and what the provider cuts off is the server's part of
  the path.
- `forLookupPath_of_best`: the provider answers with what the handler's chain makes of the parts.
- `publicUrl_agrees`: a public URL is given just for the paths of files, and it is the path; the provider fails just
  where a mapping is hit and the server finds no file.
-/
import ResourceServer.Proofs.Glob.Within
import ResourceServer.Proofs.Routing.Selection
import ResourceServer.Proofs.Server.Confinement

namespace ResourceServer

open Files Http Request Routing Resource Glob PublicUrl

variable {tree : FileTree} {files : Bindings ResourceHandler} {path : Text}

/-! ## The two searches -/

/-- a neat path that is none of the endpoints does not match them -/
theorem endpointTable_lookup?_eq_none (hn : Text.Neat path) (h₁ : path ≠ Endpoint.resourceUrl.path)
    (h₂ : path ≠ Endpoint.mappings.path) : endpointTable.lookup? .standard path = none := by
  have hbest : bestMatch? .standard path endpointTable.entries.toList = none := by
    rw [bestMatch?_eq_none_iff]
    intro e he
    rw [Bool.eq_false_iff]
    intro hm
    rcases mem_endpointTable_iff.1 he with rfl | rfl
    · exact h₂ ((pathMatches_literal_neat_iff (by decide) (by decide) hn).1 hm).symm
    · exact h₁ ((pathMatches_literal_neat_iff (by decide) (by decide) hn).1 hm).symm
  rw [Mapping.lookup?, endpointTable_get?_eq_none h₁ h₂, hbest]
  rfl

/-- the search among the files, as the mapping makes it -/
theorem fileTable_lookup? (matcher : PathMatcher) (files : Bindings ResourceHandler)
    (hkept : ∀ k ∈ files.keys, patternKey k = k) (path : Text) :
    (fileTable files hkept).lookup? matcher path =
      match files.get? path with
      | some f => some ⟨path, .resource f, path⟩
      | none => (bestMatch? matcher path files.toList).map fun e => ⟨e.1, .resource e.2, matcher.within e.1 path⟩ := by
  rw [Mapping.lookup?, fileTable_get?, fileTable_entries, Bindings.toList_mapValues,
    bestMatch?_map Handler.resource files.toList]
  cases files.get? path with
  | some f => rfl
  | none => cases bestMatch? matcher path files.toList <;> rfl

/-! ## The two cuts -/

/-- a part that ends the path is cut off there -/
theorem splitLookup_suffix {within : Text} (h : within <:+ path) :
    ∃ front, splitLookup path false within = (front, within) ∧ front ++ within = path := by
  obtain ⟨front, hfront⟩ := h
  refine ⟨front, ?_, hfront⟩
  rw [splitLookup, if_neg (by simp), Text.beforeBack?, List.isSuffixOf?_eq_some_iff_append_eq.2 hfront]

/-- for a literal pattern all but the slashes at the front is cut off -/
theorem splitLookup_literal (path : Text) :
    splitLookup path true [] = (path.takeWhile (· == '/'), Text.trimSlashes path) := rfl

theorem pathWithin_suffix {pattern : Text} (hp : Text.rooted pattern = true) (hn : Text.Neat path) :
    pathWithin pattern path <:+ path ∧ Text.trimSlashes (pathWithin pattern path) = pathWithin pattern path := by
  rw [pathWithin_of_rooted hp]
  cases (Text.segments pattern).findIdx? hasWildcard with
  | none => exact ⟨List.nil_suffix, rfl⟩
  | some start =>
    exact ⟨hn.join_drop_suffix start,
      Text.trimSlashes_join fun s hs => Text.proper_of_mem_segments (List.mem_of_mem_drop hs)⟩

theorem rooted_of_pathMatches {pattern : Text} (h : pathMatches pattern path = true) (hn : Text.Neat path) :
    Text.rooted pattern = true := ((pathMatches_iff_accords _ _).1 h).1.trans hn.rooted

/-- **A neat path is cut where the part within the pattern begins** -/
theorem splitLookup_parts {pattern : Text} (h : pathMatches pattern path = true) (hn : Text.Neat path) :
    ∃ front within, splitLookup path (!isPattern pattern) (pathWithin pattern path) = (front, within) ∧
      path = front ++ within ∧ PartWithin pattern path within := by
  by_cases hliteral : Literal pattern
  · have hpattern : isPattern pattern = false := hliteral
    rw [hpattern, pathWithin_of_literal hliteral]
    exact ⟨_, _, splitLookup_literal path, List.takeWhile_append_dropWhile.symm,
      .literal hliteral hn.eq_cons_trimSlashes⟩
  · have hpattern : isPattern pattern = true := Bool.not_eq_false _ ▸ hliteral
    obtain ⟨front, hsplit, hwhole⟩ := splitLookup_suffix (pathWithin_suffix (rooted_of_pathMatches h hn) hn).1
    rw [hpattern]
    exact ⟨front, _, hsplit, hwhole.symm, partWithin_pathWithin h hn hliteral⟩

/-- the entry of the path itself is the best match -/
theorem bestMatch?_of_get? {f : ResourceHandler} (hn : Literal path) (h : files.get? path = some f) :
    bestMatch? .standard path files.toList = some (path, f) := by
  have hpath : path ≠ Specificity.catchAllPattern := by
    rintro rfl
    exact absurd hn (by decide)
  have hin := Bindings.get?_eq_some_iff.1 h
  exact bestMatch?_eq_some_iff.2 ⟨mostSpecific_path hpath (Bindings.mem_keys_of_mem hin), hin⟩

/-- what both searches find for a path: the same handler, and the same path of the resource -/
structure SameFind (files : Bindings ResourceHandler) (path : Text) (hit : Hit) (f : ResourceHandler)
    (front within : Text) : Prop where
  hit_handler : hit.handler = .resource f
  best : ∃ pattern, bestMatch? .standard path files.toList = some (pattern, f) ∧
    splitLookup path (!isPattern pattern) (pathWithin pattern path) = (front, within)
  whole : front ++ within = path
  within_eq : within = Text.trimSlashes hit.within

/-- **Both searches find the same**, or both nothing -/
theorem lookup?_agrees (hkept : ∀ k ∈ files.keys, patternKey k = k) (hsingle : ∀ k ∈ files.keys, ¬ Text.Doubled k)
    (hn : Text.Neat path) (hl : Literal path) :
    ((fileTable files hkept).lookup? .standard path = none ∧ bestMatch? .standard path files.toList = none) ∨
      ∃ hit f front within, (fileTable files hkept).lookup? .standard path = some hit ∧
        SameFind files path hit f front within := by
  rw [fileTable_lookup?]
  cases hget : files.get? path with
  | some f =>
    refine .inr ⟨_, f, path.takeWhile (· == '/'), _, rfl, rfl, ⟨path, bestMatch?_of_get? hl hget, ?_⟩, ?_, rfl⟩
    · have hpattern : isPattern path = false := hl
      rw [pathWithin_of_literal hl, hpattern]
      exact splitLookup_literal path
    · exact List.takeWhile_append_dropWhile
  | none =>
    cases hbest : bestMatch? PathMatcher.standard path files.toList with
    | none => exact .inl ⟨rfl, rfl⟩
    | some e =>
      obtain ⟨hin, hmatch⟩ := bestMatch?_mem hbest
      have hkey : e.1 ∈ files.keys := Bindings.mem_keys_of_mem hin
      have hpattern : isPattern e.1 = true := by
        -- a literal pattern that matches would be the path, which has no entry
        by_contra hlit
        have hliteral : Literal e.1 := Bool.eq_false_iff.2 hlit
        have he : e.1 = path := (pathMatches_literal_neat_iff hliteral (hsingle _ hkey) hn).1 hmatch
        have : files.get? path = some e.2 := Bindings.get?_eq_some_iff.2 (he ▸ hin)
        rw [hget] at this
        cases this
      obtain ⟨hsuffix, htrim⟩ := pathWithin_suffix (rooted_of_kept (hkept _ hkey)) hn
      obtain ⟨front, hsplit, hwhole⟩ := splitLookup_suffix hsuffix
      refine .inr ⟨_, e.2, front, _, rfl, rfl, ⟨e.1, hbest, ?_⟩, hwhole, htrim.symm⟩
      rw [hpattern]
      exact hsplit

/-! ## The provider and the server -/

variable {c : Settings} {s : ServerState} {signals : List Signal}

/-- a server that starts without public patterns detects all of its files -/
theorem started_provider (hc : c.resources.publicPatterns = none)
    (hs : (ServerState.ofServer c.server).apply c = .ok (s, signals)) :
    ∃ table, routeTable c.resources = .ok table ∧ s.routes = table ∧ s.provider.matcher = .standard ∧
      s.provider.handlers.toList = table.resources := by
  obtain ⟨table, htable, hroute⟩ := ServerState.apply_eq_ok_iff.1 hs
  have hstate : s = ((ServerState.ofServer c.server).route c.resources table).1 := by rw [hroute]
  refine ⟨table, htable, ?_, ?_, ?_⟩ <;> rw [hstate]
  · exact ServerState.route_routes _ _ _
  · exact ServerState.route_matcher _ _ _
  · exact ServerState.route_handlers_of_autodetect hc rfl htable

/-- the answer that a handler's chain makes of the two parts of a path -/
def partsAnswer (tree : FileTree) (f : ResourceHandler) (front within : Text) : Except LookupError (Option Text) :=
  match f.publicPath? tree within with
  | none => .error (.unresolved within)
  | some found => .ok (some (front ++ found))

theorem partsAnswer_eq_some_iff {tree : FileTree} {f : ResourceHandler} {front within u : Text} :
    partsAnswer tree f front within = .ok (some u) ↔
      ∃ found, f.publicPath? tree within = some found ∧ u = front ++ found := by
  rw [partsAnswer]
  cases f.publicPath? tree within <;> simp [eq_comm]

theorem partsAnswer_eq_error_iff {tree : FileTree} {f : ResourceHandler} {front within : Text} {e : LookupError} :
    partsAnswer tree f front within = .error e ↔ f.publicPath? tree within = none ∧ e = .unresolved within := by
  rw [partsAnswer]
  cases f.publicPath? tree within <;> simp [eq_comm]

theorem partsAnswer_ne_none (tree : FileTree) (f : ResourceHandler) (front within : Text) :
    partsAnswer tree f front within ≠ .ok none := by
  rw [partsAnswer]
  cases f.publicPath? tree within <;> simp

theorem forLookupPath_of_best (tree : FileTree) {p : Provider} {pattern front within : Text} {f : ResourceHandler}
    (hm : p.matcher = .standard) (hbest : bestMatch? .standard path p.handlers.toList = some (pattern, f))
    (hsplit : splitLookup path (!isPattern pattern) (pathWithin pattern path) = (front, within)) :
    p.forLookupPath tree path = partsAnswer tree f front within := by
  have hsplit' : splitLookup path (!PathMatcher.standard.isPattern pattern)
      (PathMatcher.standard.within pattern path) = (front, within) := hsplit
  rw [Provider.forLookupPath, Provider.forLookupPathAmong, hm, hbest]
  dsimp only
  rw [hsplit']
  rfl

theorem forLookupPath_of_none (tree : FileTree) {p : Provider} (hm : p.matcher = .standard)
    (hbest : bestMatch? .standard path p.handlers.toList = none) : p.forLookupPath tree path = .ok none := by
  rw [Provider.forLookupPath, Provider.forLookupPathAmong, hm, hbest]

theorem partsAnswer_plain (tree : FileTree) (locations : List Text) (front within : Text) :
    partsAnswer tree (.plain locations) front within =
      match findFile? tree within locations with
      | none => .error (.unresolved within)
      | some _ => .ok (some (front ++ within)) := by
  rw [partsAnswer, plain_publicPath?]
  cases findFile? tree within locations <;> rfl

/-- a hit on files without a file is a fault of the request -/
theorem fileAt?_of_hit (tree : FileTree) {lookup : Text} {hit : Hit} {locations : List Text}
    (hhit : s.routes.lookup? .standard lookup = some hit) (hh : hit.handler = .resource (.plain locations)) :
    match findFile? tree (Text.trimSlashes hit.within) locations with
    | some place => s.fileAt? tree lookup = .ok (FilePath.text place)
    | none => ∃ e, s.fileAt? tree lookup = .error e ∧ (e.status = 404 ∨ e.status = 400) := by
  have hresource : hit.handler.resource? = some (.plain locations) := Handler.resource?_eq_some_iff.2 hh
  rw [ServerState.fileAt?, hhit]
  dsimp only
  rw [hresource]
  dsimp only
  rw [plain_file?]
  cases hfault : pathFault? (Text.trimSlashes hit.within) with
  | some fault =>
    rw [findFile?, hfault]
    exact ⟨_, rfl, .inr rfl⟩
  | none =>
    cases findFile? tree (Text.trimSlashes hit.within) locations with
    | some place => rfl
    | none => exact ⟨_, rfl, .inl rfl⟩

/-- the public URL of a lookup path and its file go together -/
structure Agrees (s : ServerState) (tree : FileTree) (path : Text) : Prop where
  url_iff : ∀ u, s.provider.forLookupPath tree path = .ok (some u) ↔ (∃ f, s.fileAt? tree path = .ok f) ∧ u = path
  unresolved_iff : (∃ w, s.provider.forLookupPath tree path = .error (.unresolved w)) ↔
    (∃ hit f, s.routes.lookup? .standard path = some hit ∧ hit.handler = .resource f) ∧
      ∃ e, s.fileAt? tree path = .error e ∧ (e.status = 404 ∨ e.status = 400)
  none_iff : s.provider.forLookupPath tree path = .ok none ↔ s.routes.lookup? .standard path = none
  request : ∀ uri, s.lookupPath uri = path → s.file? tree uri = s.fileAt? tree path

theorem agrees_of_none (hm : s.provider.matcher = .standard)
    (hbest : bestMatch? .standard path s.provider.handlers.toList = none)
    (hlookup : s.routes.lookup? .standard path = none) : Agrees s tree path := by
  have hurl : s.provider.forLookupPath tree path = .ok none := forLookupPath_of_none tree hm hbest
  have hfile : s.fileAt? tree path = .error .notFound := by
    rw [ServerState.fileAt?, hlookup]
  refine ⟨fun u => ?_, ?_, ?_, fun uri hu => hu ▸ rfl⟩
  · simp [hurl, hfile]
  · simp [hurl, hlookup]
  · simp [hurl, hlookup]

theorem agrees_of_hit {hit : Hit} {locations : List Text} {front within : Text} (hm : s.provider.matcher = .standard)
    (hlookup : s.routes.lookup? .standard path = some hit)
    (hsame : SameFind s.provider.handlers path hit (.plain locations) front within) : Agrees s tree path := by
  obtain ⟨hhandler, ⟨pattern, hbest, hsplit⟩, hwhole, hwithin⟩ := hsame
  have hurl := (forLookupPath_of_best tree hm hbest hsplit).trans (partsAnswer_plain tree locations front within)
  have hfile := fileAt?_of_hit tree hlookup hhandler
  rw [← hwithin] at hfile
  rw [hwhole] at hurl
  have hhit : ∃ hit f, s.routes.lookup? .standard path = some hit ∧ hit.handler = .resource f :=
    ⟨hit, _, hlookup, hhandler⟩
  cases hfind : findFile? tree within locations with
  | some place =>
    rw [hfind] at hurl hfile
    dsimp only at hurl hfile
    refine ⟨fun u => ?_, ?_, ?_, fun uri hu => hu ▸ rfl⟩
    · simp [hurl, hfile, eq_comm]
    · simp [hurl, hfile]
    · simp [hurl, hlookup]
  | none =>
    rw [hfind] at hurl hfile
    dsimp only at hurl hfile
    obtain ⟨e, he, hstatus⟩ := hfile
    refine ⟨fun u => ?_, ?_, ?_, fun uri hu => hu ▸ rfl⟩
    · simp [hurl, he]
    · rw [hurl]
      exact iff_of_true ⟨within, rfl⟩ ⟨hhit, e, he, hstatus⟩
    · simp [hurl, hlookup]

/-- **Public URLs and files agree.** For a server that starts without public patterns, and a neat lookup path without
wildcards that is no endpoint. -/
theorem publicUrl_agrees (hc : c.resources.publicPatterns = none)
    (hpatterns : ∀ m ∈ c.resources.enabledMappings, ¬ Text.Doubled m.pattern)
    (hs : (ServerState.ofServer c.server).apply c = .ok (s, signals))
    (hn : Text.Neat path) (hl : Literal path)
    (h₁ : path ≠ Endpoint.resourceUrl.path) (h₂ : path ≠ Endpoint.mappings.path) (tree : FileTree) :
    Agrees s tree path := by
  obtain ⟨table, htable, rfl, hmatcher, hhandlers⟩ := started_provider hc hs
  obtain ⟨files, hkept, hmappings, hresources, hmem⟩ := routeTable_mappings htable
  have hfiles : s.provider.handlers = files := Bindings.ext (hhandlers.trans hresources)
  have hsingle : ∀ k ∈ files.keys, ¬ Text.Doubled k := by
    intro k hk
    obtain ⟨f, hin⟩ := Bindings.mem_keys_iff.1 hk
    obtain ⟨m, hm, rfl, -⟩ := (hmem k f).1 hin
    exact Text.not_doubled_rootedForm fun h => hpatterns m hm (h.trans (Text.trim_infix _))
  have hroutes : s.routes.lookup? .standard path = (fileTable files hkept).lookup? .standard path := by
    rw [RouteTable.lookup?, hmappings, List.findSome?_cons, endpointTable_lookup?_eq_none hn h₁ h₂]
    exact List.findSome?_singleton
  rcases lookup?_agrees hkept hsingle hn hl with ⟨hnone, hbest⟩ | ⟨hit, f, front, within, hhit, hsame⟩
  · rw [← hfiles] at hbest
    exact agrees_of_none hmatcher hbest (hroutes.trans hnone)
  · have hin := RouteTable.hit_mem_resources (hroutes.trans hhit) (Handler.resource?_eq_some_iff.2 hsame.hit_handler)
    obtain ⟨m, -, -, rfl⟩ := (mem_resources_of_routeTable htable _ _).1 hin
    rw [← hfiles] at hsame
    exact agrees_of_hit hmatcher (hroutes.trans hhit) hsame

/-- a file that lies behind a link has its path as public URL -/
theorem publicUrl_agrees_sample :
    Agrees sampleState sampleTree "/r/a/x.txt".toList ∧
      sampleState.provider.forLookupPath sampleTree "/r/a/x.txt".toList = .ok (some "/r/a/x.txt".toList) := by
  have hagrees : Agrees sampleState sampleTree "/r/a/x.txt".toList :=
    publicUrl_agrees rfl (by decide) sampleState_applied (by decide) (by decide) (by decide) (by decide) sampleTree
  have hfile : sampleState.fileAt? sampleTree "/r/a/x.txt".toList = .ok "/srv/site/data/x.txt".toList := by
    decide +kernel
  exact ⟨hagrees, (hagrees.url_iff _).2 ⟨⟨_, hfile⟩, rfl⟩⟩

end ResourceServer
