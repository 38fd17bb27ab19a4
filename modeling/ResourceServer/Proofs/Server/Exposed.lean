/-
Which mappings a list of public patterns exposes.

Registration keeps a pattern without the white space at its ends, and a public pattern is looked up as it is written;
an endpoint that has the same key is found before the files.
- `publicHandler?_eq_some_iff`: the files behind a public pattern, in the route table of some settings.
- `publicPatterns_exposed`: settings put into force expose the mappings whose key a public pattern spells, each once and
  under its key. For patterns without white space at their ends that name no endpoint, these are the listed mappings.
- `padded_not_exposed`: a listed pattern with a space in front is accepted and put into force, and exposes nothing.
-/
import ResourceServer.Proofs.Config.Rules
import ResourceServer.Proofs.Server.State

namespace ResourceServer

open Routing Resource

variable {r : ResourceSettings} {c : Settings} {table : RouteTable} {k p : Text} {f : ResourceHandler}

/-! ## The files behind a pattern -/

/-- whether a path is that of one of the endpoints -/
def isEndpoint (path : Text) : Bool := path == Endpoint.resourceUrl.path || path == Endpoint.mappings.path

theorem endpointTable_get?_of_endpoint (h : isEndpoint k = true) :
    ∃ name, endpointTable.entries.get? k = some (.endpoint name) := by
  have hor : k = Endpoint.resourceUrl.path ∨ k = Endpoint.mappings.path := by simpa [isEndpoint] using h
  rcases hor with rfl | rfl
  · exact ⟨_, rfl⟩
  · exact ⟨_, rfl⟩

theorem endpointTable_get?_of_not_endpoint (h : isEndpoint k = false) : endpointTable.entries.get? k = none := by
  have hand : k ≠ Endpoint.resourceUrl.path ∧ k ≠ Endpoint.mappings.path := by simpa [isEndpoint] using h
  exact endpointTable_get?_eq_none hand.1 hand.2

/-- the files behind a public pattern are those registered under its rooted form, unless an endpoint has that path -/
theorem publicHandler?_eq_some_iff (ht : routeTable r = .ok table) :
    publicHandler? table p = some f ↔
      isEndpoint (Text.rootedForm p) = false ∧
        ∃ m ∈ r.enabledMappings, patternKey m.pattern = Text.rootedForm p ∧ f = .plain m.locations := by
  obtain ⟨files, hkept, hmappings, -, hmem⟩ := routeTable_mappings ht
  rw [publicHandler?, hmappings, List.findSome?_cons]
  cases hk : isEndpoint (Text.rootedForm p) with
  | true =>
    obtain ⟨name, hname⟩ := endpointTable_get?_of_endpoint hk
    simp [hname, Handler.resource?]
  | false =>
    rw [endpointTable_get?_of_not_endpoint hk]
    dsimp only
    rw [List.findSome?_singleton, fileTable_get?]
    have hresource : ∀ found : Option ResourceHandler, (found.map Handler.resource).bind Handler.resource? = found := by
      intro found
      cases found <;> rfl
    rw [hresource, Bindings.get?_eq_some_iff, hmem]
    simp only [true_and, eq_comm]

/-! ## Exposed mappings -/

/-- a mapping as it is bound -/
def MappingSettings.binding (m : MappingSettings) : Text × ResourceHandler := (patternKey m.pattern, .plain m.locations)

/-- the enabled mappings whose pattern is among the given ones -/
def ResourceSettings.listedMappings (r : ResourceSettings) (patterns : List Text) : List MappingSettings :=
  r.enabledMappings.filter fun m => patterns.contains m.pattern

/-- the enabled mappings whose key one of the patterns spells, and that no endpoint hides -/
def ResourceSettings.exposedMappings (r : ResourceSettings) (patterns : List Text) : List MappingSettings :=
  r.enabledMappings.filter fun m =>
    patterns.any (fun p => Text.rootedForm p == patternKey m.pattern) && !isEndpoint (patternKey m.pattern)

theorem exposedMappings_sublist (r : ResourceSettings) (patterns : List Text) :
    (r.exposedMappings patterns).Sublist r.enabledMappings := List.filter_sublist

theorem mem_exposedMappings_iff {patterns : List Text} {m : MappingSettings} :
    m ∈ r.exposedMappings patterns ↔
      m ∈ r.enabledMappings ∧ (∃ p ∈ patterns, Text.rootedForm p = patternKey m.pattern) ∧
        isEndpoint (patternKey m.pattern) = false := by
  simp [ResourceSettings.exposedMappings]

/-- bindings of some of the enabled mappings are distinct where their keys are -/
theorem nodup_bindings {ms : List MappingSettings} (hsub : ms.Sublist r.enabledMappings)
    (hkeys : (r.enabledMappings.map fun m => patternKey m.pattern).Nodup) : (ms.map (·.binding)).Nodup := by
  have hms : (ms.map fun m => patternKey m.pattern).Nodup := hkeys.sublist (hsub.map _)
  have hfst : (ms.map (·.binding)).map Prod.fst = ms.map fun m => patternKey m.pattern := by
    rw [List.map_map]
    rfl
  exact List.Nodup.of_map Prod.fst (hfst ▸ hms)

/-- two enabled mappings with one key are the same -/
theorem eq_of_patternKey_eq (hkeys : (r.enabledMappings.map fun m => patternKey m.pattern).Nodup)
    {a b : MappingSettings} (ha : a ∈ r.enabledMappings) (hb : b ∈ r.enabledMappings)
    (h : patternKey a.pattern = patternKey b.pattern) : a = b := List.inj_on_of_nodup_map hkeys ha hb h

/-- the handlers of the public patterns are the bindings of the exposed mappings -/
theorem explicit_perm_exposed (ht : routeTable r = .ok table) (patterns : List Text) :
    (Bindings.insertAll .empty (explicitHandlers table patterns)).toList.Perm
      ((r.exposedMappings patterns).map (·.binding)) := by
  have hkeys := (routeTable_ok_iff.1 ⟨table, ht⟩).2
  have hdistinct := nodup_bindings (exposedMappings_sublist r patterns) hkeys
  rw [List.perm_ext_iff_of_nodup (Bindings.nodup_toList _) hdistinct]
  rintro ⟨k, f⟩
  rw [Bindings.mem_toList, mem_explicit_iff, List.mem_map]
  simp only [publicHandler?_eq_some_iff ht, mem_exposedMappings_iff, MappingSettings.binding, Prod.mk.injEq]
  constructor
  · rintro ⟨p, hp, rfl, hendpoint, m, hm, hkey, rfl⟩
    exact ⟨m, ⟨hm, ⟨p, hp, hkey.symm⟩, hkey ▸ hendpoint⟩, hkey, rfl⟩
  · rintro ⟨m, ⟨hm, ⟨p, hp, hkey⟩, hendpoint⟩, rfl, rfl⟩
    exact ⟨p, hp, hkey, hkey ▸ hendpoint, m, hm, hkey.symm, rfl⟩

/-- without white space at the ends and away from the endpoints, the exposed mappings are the listed ones -/
theorem exposedMappings_eq_listed {patterns : List Text}
    (hkeys : (r.enabledMappings.map fun m => patternKey m.pattern).Nodup)
    (hnamed : ∀ p ∈ patterns, ∃ m ∈ r.enabledMappings, m.pattern = p)
    (hplain : ∀ p ∈ patterns, Text.trim p = p ∧ isEndpoint (Text.rootedForm p) = false) :
    r.exposedMappings patterns = r.listedMappings patterns := by
  have hkey : ∀ p ∈ patterns, patternKey p = Text.rootedForm p := by
    intro p hp
    rw [patternKey, (hplain p hp).1]
  refine List.filter_congr fun m hm => ?_
  rw [Bool.eq_iff_iff]
  simp only [Bool.and_eq_true, List.any_eq_true, beq_iff_eq, Bool.not_eq_true', List.contains_iff_mem]
  constructor
  · rintro ⟨⟨p, hp, hspells⟩, -⟩
    obtain ⟨m', hm', rfl⟩ := hnamed p hp
    have hsame : m = m' := eq_of_patternKey_eq hkeys hm hm' (hspells.symm.trans (hkey _ hp).symm)
    exact hsame ▸ hp
  · intro hp
    exact ⟨⟨m.pattern, hp, (hkey _ hp).symm⟩, by rw [hkey _ hp]; exact (hplain _ hp).2⟩

/-! ## In force -/

/-- the warning about a public pattern that exposes nothing -/
def notExposed (pattern : Text) : Signal :=
  .log ⟨.warning, "Public pattern '".toList ++ pattern ++ "' is not a resource mapping".toList⟩

/-- a public pattern has files, or there is a warning about it -/
theorem exposed_or_warned (table : RouteTable) {patterns : List Text} (hp : p ∈ patterns) :
    (∃ f, (Text.rootedForm p, f) ∈ Bindings.insertAll .empty (explicitHandlers table patterns)) ∨
      notExposed p ∈ explicitWarnings table patterns := by
  cases hf : publicHandler? table p with
  | some f => exact .inl ⟨f, mem_explicit_iff.2 ⟨p, hp, rfl, hf⟩⟩
  | none => exact .inr (List.mem_map_of_mem (List.mem_filter.2 ⟨hp, by rw [hf]; rfl⟩))

/-- **What public patterns expose.** Accepted settings with public patterns, put into force in any state, expose each
mapping whose key one of the patterns spells, once, under its key and with its locations, and nothing else; a pattern
without files brings a warning. If no pattern has white space at its ends or is the path of an endpoint, exactly the
listed mappings are exposed. -/
theorem publicPatterns_exposed {t : Text} {s s' : ServerState} {signals : List Signal} {patterns : List Text}
    (h : Settings.parse t = .ok c) (hp : c.resources.publicPatterns = some patterns)
    (hs : s.apply c = .ok (s', signals)) :
    s'.provider.handlers.toList.Perm ((c.resources.exposedMappings patterns).map (·.binding)) ∧
    (∀ p ∈ patterns, (∃ f, (Text.rootedForm p, f) ∈ s'.provider.handlers) ∨ notExposed p ∈ signals) ∧
    ((∀ p ∈ patterns, Text.trim p = p ∧ isEndpoint (Text.rootedForm p) = false) →
      s'.provider.handlers.toList.Perm ((c.resources.listedMappings patterns).map (·.binding))) := by
  obtain ⟨table, htable, hroute⟩ := ServerState.apply_eq_ok_iff.1 hs
  have hhandlers : s'.provider.handlers = Bindings.insertAll .empty (explicitHandlers table patterns) := by
    have hprovider := ServerState.route_of_publicPatterns s table hp
    rw [hroute] at hprovider
    rw [hprovider]
    rfl
  have hsignals : signals = explicitWarnings table patterns := by
    rw [ServerState.route, hp] at hroute
    exact (congrArg Prod.snd hroute).symm
  have hexposed := explicit_perm_exposed htable patterns
  rw [hhandlers, hsignals]
  refine ⟨hexposed, fun p hp' => exposed_or_warned table hp', fun hplain => ?_⟩
  have hnamed := (Settings.valid_of_parse h).publicPatterns patterns hp
  rwa [exposedMappings_eq_listed (routeTable_ok_iff.1 ⟨table, htable⟩).2 hnamed hplain] at hexposed

/-- two of three mappings are listed, one of them without a slash in front -/
def listingText : Text :=
  ["[server]".toList, "host = \"h\"".toList, "port = 1".toList, "base_url = \"u\"".toList,
    "[resources]".toList, "public_patterns = [\"/b\", \"a/**\"]".toList,
    "[[resources.mappings]]".toList, "pattern = \"a/**\"".toList, "locations = [\"x\"]".toList,
    "[[resources.mappings]]".toList, "pattern = \"/b\"".toList, "locations = [\"y\"]".toList,
    "[[resources.mappings]]".toList, "pattern = \"/c\"".toList, "locations = [\"z\"]".toList].flatMap (· ++ ['\n'])

/-- what it says -/
def listingSettings : Settings where
  server := ⟨['h'], 1, ['u'], [], true, 60, 10, [['*']], 1000, 8, true⟩
  resources := { ResourceSettings.usual with
    publicPatterns := some ["/b".toList, "a/**".toList]
    mappings := [⟨"a/**".toList, [['x']], true⟩, ⟨"/b".toList, [['y']], true⟩, ⟨"/c".toList, [['z']], true⟩] }

theorem publicPatterns_exposed_listing :
    ∃ s' signals, (ServerState.ofServer listingSettings.server).apply listingSettings = .ok (s', signals) ∧
      s'.provider.handlers.toList.Perm [("/a/**".toList, .plain [['x']]), ("/b".toList, .plain [['y']])] := by
  have hparse : Settings.parse listingText = .ok listingSettings := eq_ok_of_toOption (by decide +kernel)
  have hkeys : (∀ m ∈ listingSettings.resources.enabledMappings, Text.trim m.pattern ≠ []) ∧
      (listingSettings.resources.enabledMappings.map fun m => patternKey m.pattern).Nodup := by decide
  obtain ⟨table, htable⟩ := routeTable_ok_iff.2 hkeys
  have happly := ServerState.apply_eq_ok_iff.2
    ⟨table, htable, (rfl : (ServerState.ofServer listingSettings.server).route listingSettings.resources table = _)⟩
  exact ⟨_, _, happly, (publicPatterns_exposed hparse rfl happly).2.2 (by decide)⟩

/-! ## A listed pattern with white space -/

/-- a configuration with the pattern ` /a`, which is listed -/
def paddedText : Text :=
  ["[server]".toList, "host = \"h\"".toList, "port = 1".toList, "base_url = \"u\"".toList,
    "[resources]".toList, "public_patterns = [\" /a\"]".toList,
    "[[resources.mappings]]".toList, "pattern = \" /a\"".toList, "locations = [\"x\"]".toList].flatMap (· ++ ['\n'])

/-- what it says -/
def paddedSettings : Settings where
  server := ⟨['h'], 1, ['u'], [], true, 60, 10, [['*']], 1000, 8, true⟩
  resources := { ResourceSettings.usual with
    publicPatterns := some [" /a".toList]
    mappings := [⟨" /a".toList, [['x']], true⟩] }

theorem parse_paddedText : Settings.parse paddedText = .ok paddedSettings := eq_ok_of_toOption (by decide +kernel)

theorem padded_not_exposed :
    Settings.parse paddedText = .ok paddedSettings ∧
      ∃ s' signals, (ServerState.ofServer paddedSettings.server).apply paddedSettings = .ok (s', signals) ∧
        (paddedSettings.resources.listedMappings [" /a".toList]).map (patternKey ·.pattern) = ["/a".toList] ∧
        s'.provider.handlers = .empty := by
  have hkeys : (∀ m ∈ paddedSettings.resources.enabledMappings, Text.trim m.pattern ≠ []) ∧
      (paddedSettings.resources.enabledMappings.map fun m => patternKey m.pattern).Nodup := by decide
  obtain ⟨table, htable⟩ := routeTable_ok_iff.2 hkeys
  have happly := ServerState.apply_eq_ok_iff.2
    ⟨table, htable, (rfl : (ServerState.ofServer paddedSettings.server).route paddedSettings.resources table = _)⟩
  refine ⟨parse_paddedText, _, _, happly, by decide, ?_⟩
  have hnone : paddedSettings.resources.exposedMappings [" /a".toList] = [] := by decide
  have hperm := explicit_perm_exposed htable [" /a".toList]
  rw [hnone] at hperm
  exact Bindings.ext (List.perm_nil.1 hperm)

end ResourceServer
