/-
Which of the accepted settings can be put into force.

The rules compare patterns as they are written, and registration compares their keys, without white space at the ends
and rooted.
- `apply_ok_iff_of_parse`: accepted settings are put into force just if no two enabled patterns have the same key.
- `apply_accepted_of_keys`: patterns that are written as their keys never fail.
- `apply_accepted`: otherwise the only error is that of a key of two patterns.
- `colliding_not_routed`: two spellings of one key are accepted, and fail.
-/
import ResourceServer.Proofs.Config.Rules
import ResourceServer.Proofs.Server.State

namespace ResourceServer

open Routing

variable {t : Text} {c : Settings}

/-- accepted settings are put into force just if the keys of the enabled patterns are distinct -/
theorem apply_ok_iff_of_parse (h : Settings.parse t = .ok c) (s : ServerState) :
    (∃ s' signals, s.apply c = .ok (s', signals)) ↔
      (c.resources.enabledMappings.map fun m => patternKey m.pattern).Nodup := by
  have happly : (∃ s' signals, s.apply c = .ok (s', signals)) ↔ ∃ table, routeTable c.resources = .ok table := by
    constructor
    · rintro ⟨s', signals, hs⟩
      obtain ⟨table, htable, -⟩ := ServerState.apply_eq_ok_iff.1 hs
      exact ⟨table, htable⟩
    · rintro ⟨table, htable⟩
      exact ⟨_, _, ServerState.apply_eq_ok_iff.2 ⟨table, htable, rfl⟩⟩
  rw [happly, routeTable_ok_iff]
  exact and_iff_right (Settings.valid_of_parse h).patterns

/-- patterns that are written as their keys do not fail -/
theorem apply_accepted_of_keys (h : Settings.parse t = .ok c)
    (hkeys : ∀ m ∈ c.resources.enabledMappings, patternKey m.pattern = m.pattern) (s : ServerState) :
    ∃ s' signals, s.apply c = .ok (s', signals) := by
  refine (apply_ok_iff_of_parse h s).2 ?_
  rw [List.map_congr_left hkeys]
  exact (Settings.valid_of_parse h).distinct

/-- **Accepted settings are put into force** just if the keys of the enabled patterns are distinct. Otherwise the key of
two patterns, which are written in different ways, is reported as a duplicate. -/
theorem apply_accepted (h : Settings.parse t = .ok c) (s : ServerState) :
    ((∃ s' signals, s.apply c = .ok (s', signals)) ↔
      (c.resources.enabledMappings.map fun m => patternKey m.pattern).Nodup) ∧
    ∀ e, s.apply c = .error e →
      ∃ a ∈ c.resources.enabledMappings, ∃ b ∈ c.resources.enabledMappings, a.pattern ≠ b.pattern ∧
        patternKey a.pattern = patternKey b.pattern ∧
        e = .duplicatePattern (patternKey b.pattern) "resources".toList := by
  refine ⟨apply_ok_iff_of_parse h s, fun e he => ?_⟩
  have hvalid := Settings.valid_of_parse h
  have hfiles := routeTable_eq_error_iff.1 (ServerState.apply_eq_error_iff.1 he)
  obtain ⟨done, b, more, hsplit, rfl, a, ha, hkey⟩ := registerAll_eq_error rfl hvalid.patterns hfiles
  -- the patterns themselves are distinct, so those of one key differ in their spelling
  have hdistinct := hvalid.distinct
  rw [hsplit, List.map_append, List.map_cons, List.nodup_append] at hdistinct
  have hne : a.pattern ≠ b.pattern :=
    hdistinct.2.2 _ (List.mem_map_of_mem ha) _ List.mem_cons_self
  rw [hsplit]
  exact ⟨a, List.mem_append_left _ ha, b, by simp, hne, hkey, rfl⟩

/-! ## Two spellings of one key -/

/-- a configuration with the patterns `/a` and `a` -/
def collidingText : Text :=
  ["[server]".toList, "host = \"h\"".toList, "port = 1".toList, "base_url = \"u\"".toList,
    "[[resources.mappings]]".toList, "pattern = \"/a\"".toList, "locations = [\"x\"]".toList,
    "[[resources.mappings]]".toList, "pattern = \"a\"".toList, "locations = [\"y\"]".toList].flatMap (· ++ ['\n'])

/-- what it says -/
def collidingSettings : Settings where
  server := ⟨['h'], 1, ['u'], [], true, 60, 10, [['*']], 1000, 8, true⟩
  resources := { ResourceSettings.usual with
    mappings := [⟨"/a".toList, [['x']], true⟩, ⟨"a".toList, [['y']], true⟩] }

theorem parse_collidingText : Settings.parse collidingText = .ok collidingSettings :=
  eq_ok_of_toOption (by decide +kernel)

theorem colliding_not_routed :
    Settings.parse collidingText = .ok collidingSettings ∧
      routeTable collidingSettings.resources = .error (.duplicatePattern "/a".toList "resources".toList) :=
  ⟨parse_collidingText, routeTable_eq_error_iff.2 rfl⟩

theorem apply_accepted_colliding :
    ¬ ∃ s' signals, (ServerState.ofServer collidingSettings.server).apply collidingSettings = .ok (s', signals) := by
  intro happly
  have hnodup := (apply_accepted parse_collidingText _).1.1 happly
  exact absurd hnodup (by decide)

end ResourceServer
