/-
What is known of settings that break no rule.

`Settings.Valid` says the rules one by one. `fault?_eq_none_iff`: the checks find no fault just if all of them are kept,
whatever the number and the order of the mappings. `parse_eq_ok_iff`, `valid_of_parse`: the settings that a text gives
keep them.
-/
import Mathlib.Tactic
import ResourceServer.Config.Load

namespace ResourceServer

open Toml

theorem eq_ok_of_toOption {ε α : Type} {x : Except ε α} {a : α} (h : x.toOption = some a) : x = .ok a := by
  cases x with
  | error e => cases h
  | ok b => cases h; rfl

/-- the rules that settings keep -/
structure Settings.Valid (c : Settings) : Prop where
  contextPath : c.server.contextPath = [] ∨
    Text.rooted c.server.contextPath = true ∧ Text.closed c.server.contextPath = false
  patterns : ∀ m ∈ c.resources.enabledMappings, Text.trim m.pattern ≠ []
  locations : ∀ m ∈ c.resources.enabledMappings, m.locations ≠ []
  distinct : (c.resources.enabledMappings.map (·.pattern)).Nodup
  publicPatterns : ∀ ps, c.resources.publicPatterns = some ps →
    ∀ p ∈ ps, ∃ m ∈ c.resources.enabledMappings, m.pattern = p

theorem contextPathFault?_eq_none_iff {path : Text} :
    contextPathFault? path = none ↔ path = [] ∨ Text.rooted path = true ∧ Text.closed path = false := by
  rw [contextPathFault?]
  split_ifs with h
  · simpa using h
  · simpa using h

theorem MappingSettings.fault?_eq_none_iff {seen : List Text} {m : MappingSettings} :
    m.fault? seen = none ↔ Text.trim m.pattern ≠ [] ∧ m.locations ≠ [] ∧ m.pattern ∉ seen := by
  rw [MappingSettings.fault?]
  split_ifs with hblank hlocations hseen
  · simp [List.isEmpty_iff.1 hblank]
  · simp [List.isEmpty_iff.1 hlocations]
  · simp [List.contains_iff_mem.1 hseen]
  · simp only [List.isEmpty_iff, List.contains_iff_mem] at hblank hlocations hseen
    simp [hblank, hlocations, hseen]

/-- a list of mappings has no fault just if no member has one by itself, and all patterns are new and distinct -/
theorem mappingsFault?_eq_none_iff {seen : List Text} {ms : List MappingSettings} :
    mappingsFault? seen ms = none ↔
      (∀ m ∈ ms, Text.trim m.pattern ≠ [] ∧ m.locations ≠ [] ∧ m.pattern ∉ seen) ∧ (ms.map (·.pattern)).Nodup := by
  induction ms generalizing seen with
  | nil => simp [mappingsFault?]
  | cons m ms ih =>
    rw [mappingsFault?, List.forall_mem_cons, List.map_cons, List.nodup_cons, ← MappingSettings.fault?_eq_none_iff]
    cases m.fault? seen with
    | some fault => simp
    | none =>
      -- the later patterns differ from those seen before, and from that of this mapping
      have hnotin : m.pattern ∉ ms.map (·.pattern) ↔ ∀ m' ∈ ms, m'.pattern ≠ m.pattern := by simp
      simp only [ih, List.mem_cons, not_or, hnotin]
      constructor
      · rintro ⟨hmore, hnodup⟩
        exact ⟨⟨trivial, fun m' hm' => ⟨(hmore m' hm').1, (hmore m' hm').2.1, (hmore m' hm').2.2.2⟩⟩,
          fun m' hm' => (hmore m' hm').2.2.1, hnodup⟩
      · rintro ⟨⟨-, hmore⟩, hne, hnodup⟩
        exact ⟨fun m' hm' => ⟨(hmore m' hm').1, (hmore m' hm').2.1, hne m' hm', (hmore m' hm').2.2⟩, hnodup⟩

theorem publicPatternFault?_eq_none_iff {r : ResourceSettings} :
    publicPatternFault? r = none ↔
      ∀ ps, r.publicPatterns = some ps → ∀ p ∈ ps, ∃ m ∈ r.enabledMappings, m.pattern = p := by
  rw [publicPatternFault?, Option.map_eq_none_iff, List.find?_eq_none]
  cases r.publicPatterns <;> simp

/-- **No fault is found** just if all rules are kept -/
theorem Settings.fault?_eq_none_iff {c : Settings} : c.fault? = none ↔ c.Valid := by
  have hmappings : mappingsFault? [] c.resources.enabledMappings = none ↔
      (∀ m ∈ c.resources.enabledMappings, Text.trim m.pattern ≠ [] ∧ m.locations ≠ []) ∧
        (c.resources.enabledMappings.map (·.pattern)).Nodup := by
    rw [mappingsFault?_eq_none_iff]
    simp
  have hall : c.fault? = none ↔ contextPathFault? c.server.contextPath = none ∧
      mappingsFault? [] c.resources.enabledMappings = none ∧ publicPatternFault? c.resources = none := by
    rw [Settings.fault?]
    cases contextPathFault? c.server.contextPath <;> cases mappingsFault? [] c.resources.enabledMappings <;> simp
  rw [hall, contextPathFault?_eq_none_iff, hmappings, publicPatternFault?_eq_none_iff]
  constructor
  · rintro ⟨hpath, ⟨hms, hnodup⟩, hpublic⟩
    exact ⟨hpath, fun m hm => (hms m hm).1, fun m hm => (hms m hm).2, hnodup, hpublic⟩
  · intro h
    exact ⟨h.contextPath, ⟨fun m hm => ⟨h.patterns m hm, h.locations m hm⟩, h.distinct⟩, h.publicPatterns⟩

theorem Settings.ofDocument_eq_ok_iff {d : Document} :
    Settings.ofDocument d = .ok c ↔ Settings.decoder d.data = .ok c ∧ c.fault? = none := by
  rw [Settings.ofDocument]
  cases Settings.decoder d.data with
  | error fault => simp
  | ok c' =>
    dsimp only
    constructor
    · intro h
      split at h
      · cases h
      · rename_i hnone
        cases h
        exact ⟨rfl, hnone⟩
    · rintro ⟨h, hnone⟩
      cases h
      rw [hnone]

/-- **A text gives settings** if it is read as a document that says them and they break no rule -/
theorem Settings.parse_eq_ok_iff {t : Text} {c : Settings} :
    Settings.parse t = .ok c ↔
      ∃ d, Document.parse? t = some d ∧ Settings.decoder d.data = .ok c ∧ c.fault? = none := by
  rw [Settings.parse]
  cases Document.parse? t with
  | none => simp
  | some d => simp [Settings.ofDocument_eq_ok_iff]

theorem Settings.valid_of_parse {t : Text} {c : Settings} (h : Settings.parse t = .ok c) : c.Valid := by
  obtain ⟨d, -, -, hfault⟩ := Settings.parse_eq_ok_iff.1 h
  exact Settings.fault?_eq_none_iff.1 hfault

end ResourceServer
