/-
Only the enabled mappings count, in whatever order they stand.

Validation asks of the enabled mappings what does not depend on their order (`Settings.Valid`), and registration keeps
its entries by pattern, so that any order of it ends with the same entries. Everything else is made from the route table
and the other settings.
- `SameEnabled.routeTable_eq_ok`, `SameEnabled.valid`, `SameEnabled.route_eq`: one lemma for each part that reads the
  list of mappings.
- `sameEnabled_alike`: two such settings are accepted, routed and put into force alike.
-/
import ResourceServer.Proofs.Config.Rules
import ResourceServer.Proofs.Server.State

namespace ResourceServer

open Routing

variable {r r' : ResourceSettings} {table : RouteTable}

/-- the settings differ in their mappings only, and their enabled mappings are the same ones, in some order -/
structure ResourceSettings.SameEnabled (r r' : ResourceSettings) : Prop where
  others : r' = { r with mappings := r'.mappings }
  enabled : r.enabledMappings.Perm r'.enabledMappings

namespace ResourceSettings.SameEnabled

theorem symm (h : r.SameEnabled r') : r'.SameEnabled r where
  others := by rw [h.others]
  enabled := h.enabled.symm

theorem publicPatterns_eq (h : r.SameEnabled r') : r'.publicPatterns = r.publicPatterns := by rw [h.others]

/-! ## Each part that reads the mappings -/

theorem valid (h : r.SameEnabled r') {server : ServerSettings} (hvalid : Settings.Valid ⟨server, r⟩) :
    Settings.Valid ⟨server, r'⟩ where
  contextPath := hvalid.contextPath
  patterns m hm := hvalid.patterns m (h.enabled.mem_iff.2 hm)
  locations m hm := hvalid.locations m (h.enabled.mem_iff.2 hm)
  distinct := (h.enabled.map _).nodup_iff.1 hvalid.distinct
  publicPatterns ps hps p hp := by
    rw [h.publicPatterns_eq] at hps
    obtain ⟨m, hm, hpattern⟩ := hvalid.publicPatterns ps hps p hp
    exact ⟨m, h.enabled.mem_iff.1 hm, hpattern⟩

theorem routeTable_eq_ok (h : r.SameEnabled r') (ht : routeTable r = .ok table) : routeTable r' = .ok table := by
  obtain ⟨m, hm, rfl⟩ := ResourceServer.routeTable_eq_ok ht
  have hm' : resourceMapping r' = .ok m := registerAll_perm h.enabled hm
  rw [routeTable, endpointMapping_eq, hm']

/-- under one route table the other settings decide -/
theorem route_eq (h : r.SameEnabled r') (s : ServerState) (table : RouteTable) : s.route r' table = s.route r table := by
  rw [h.others]
  rfl

theorem apply_eq_ok (h : r.SameEnabled r') {s s' : ServerState} {server : ServerSettings} {signals : List Signal}
    (happly : s.apply ⟨server, r⟩ = .ok (s', signals)) : s.apply ⟨server, r'⟩ = .ok (s', signals) := by
  obtain ⟨table, htable, hroute⟩ := ServerState.apply_eq_ok_iff.1 happly
  exact ServerState.apply_eq_ok_iff.2 ⟨table, h.routeTable_eq_ok htable, (h.route_eq s table).trans hroute⟩

end ResourceSettings.SameEnabled

/-- **Only the set of enabled mappings matters.** Of two settings that differ in their disabled mappings and in the
order of their mappings, both break a rule or neither does; both have a route table or neither has, and the tables
answer every look-up alike; and both are put into force from any state or neither is, with the same state, the same
patterns with public URLs and the same signals. -/
theorem sameEnabled_alike (h : r.SameEnabled r') (server : ServerSettings) :
    (Settings.fault? ⟨server, r⟩ = none ↔ Settings.fault? ⟨server, r'⟩ = none) ∧
    ((∃ table, routeTable r = .ok table) ↔ ∃ table, routeTable r' = .ok table) ∧
    (∀ table table', routeTable r = .ok table → routeTable r' = .ok table' →
      ∀ matcher path, table.lookup? matcher path = table'.lookup? matcher path) ∧
    ∀ s : ServerState,
      (∀ s' signals, s.apply ⟨server, r⟩ = .ok (s', signals) ↔ s.apply ⟨server, r'⟩ = .ok (s', signals)) ∧
      ∀ s₁ s₂ signals₁ signals₂, s.apply ⟨server, r⟩ = .ok (s₁, signals₁) → s.apply ⟨server, r'⟩ = .ok (s₂, signals₂) →
        s₁.patterns = s₂.patterns := by
  have hroutes : ∀ table, routeTable r = .ok table ↔ routeTable r' = .ok table :=
    fun table => ⟨h.routeTable_eq_ok, h.symm.routeTable_eq_ok⟩
  refine ⟨?_, exists_congr hroutes, fun table table' ht ht' matcher path => ?_, fun s => ⟨fun s' signals => ?_, ?_⟩⟩
  · rw [Settings.fault?_eq_none_iff, Settings.fault?_eq_none_iff]
    exact ⟨h.valid, h.symm.valid⟩
  · have hsame := (hroutes table).1 ht
    rw [ht', Except.ok.injEq] at hsame
    rw [hsame]
  · exact ⟨h.apply_eq_ok, h.symm.apply_eq_ok⟩
  · intro s₁ s₂ signals₁ signals₂ h₁ h₂
    have hsame := h.apply_eq_ok h₁
    rw [h₂, Except.ok.injEq, Prod.mk.injEq] at hsame
    rw [hsame.1]

/-- two mappings, the second one public -/
def listedSettings : ResourceSettings :=
  { ResourceSettings.usual with
    publicPatterns := some ["/b/**".toList]
    mappings := [⟨"a".toList, [['x']], true⟩, ⟨"/b/**".toList, [['y']], true⟩] }

/-- the same ones the other way round, between disabled ones that break the rules -/
def shuffledSettings : ResourceSettings :=
  { listedSettings with
    mappings := [⟨[], [], false⟩, ⟨"/b/**".toList, [['y']], true⟩, ⟨"/a".toList, [['z']], false⟩,
      ⟨"a".toList, [['x']], true⟩, ⟨"/b/**".toList, [], false⟩] }

/-- the files of the listed settings -/
def listedFiles : Bindings Resource.ResourceHandler :=
  ⟨[("/a".toList, .plain [['x']]), ("/b/**".toList, .plain [['y']])], by decide⟩

/-- the route table of the listed settings -/
def listedTable : RouteTable := ⟨[endpointTable, fileTable listedFiles (by decide)]⟩

theorem listedTable_made : routeTable listedSettings = .ok listedTable := by
  have hfiles : resourceMapping listedSettings = .ok (fileTable listedFiles (by decide)) := rfl
  rw [routeTable, endpointMapping_eq, hfiles]
  exact congrArg Except.ok (ofMappings_pair (by decide))

theorem sameEnabled_alike_shuffled :
    listedSettings.SameEnabled shuffledSettings ∧
      Settings.fault? ⟨sampleSettings.server, shuffledSettings⟩ = none ∧
      ∃ s' signals, sampleState.apply ⟨sampleSettings.server, shuffledSettings⟩ = .ok (s', signals) ∧
        s'.routes = listedTable ∧ s'.patterns = ["/b/**".toList] := by
  have hsame : listedSettings.SameEnabled shuffledSettings := ⟨rfl, by decide⟩
  obtain ⟨hfault, -, -, happly⟩ := sameEnabled_alike hsame sampleSettings.server
  have hlisted : sampleState.apply ⟨sampleSettings.server, listedSettings⟩ =
      .ok (sampleState.route listedSettings listedTable) :=
    ServerState.apply_eq_ok_iff.2 ⟨listedTable, listedTable_made, rfl⟩
  exact ⟨hsame, hfault.1 (by decide), _, _, ((happly sampleState).1 _ _).1 hlisted, rfl, rfl⟩

end ResourceServer
