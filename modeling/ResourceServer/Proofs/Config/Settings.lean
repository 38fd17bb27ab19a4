/-
The settings that are added to a file are those that hold in their absence.

The usual values stand in two tables: the values that a document is completed with, and the values that a decoder takes
for an absent field. `serverDefaults_agree`, `resourceDefaults_agree` and `mappingDefault_agrees`: the tables say the
same. `ServerSettings.needs`, `ResourceSettings.needs` and `MappingSettings.needs`: the fields that have to be there.
`Settings.decoder_respects`: the order of keys does not matter.
-/
import ResourceServer.Config.Migration
import ResourceServer.Proofs.Toml.Alike

namespace ResourceServer

open Toml Toml.Fields

/-- what some fields with their values say -/
def fieldData (fields : List (Text × Value)) : List (Text × Data) := fields.map fun f => (f.1, f.2.data)

/-! ## Both tables of usual values -/

theorem serverDefaults_agree : ServerSettings.fields.Agrees (fieldData serverDefaults) where
  accepts := by decide
  keeps get := by
    refine .apply (.apply (.apply (.apply (.apply (.apply (.apply (.apply (.apply (.apply (.apply
      (keeps_value _) ?host) ?port) ?baseUrl) ?contextPath) ?tcpNodelay) ?timeout) ?bodySize) ?origins) ?requests)
      ?threshold) ?compression
    case host => exact keeps_required_default
    case port => exact keeps_required_default
    case baseUrl => exact keeps_required_default
    case contextPath => exact keeps_optional_default rfl rfl
    case tcpNodelay => exact keeps_optional_default rfl rfl
    case timeout => exact keeps_optional_default rfl rfl
    case bodySize => exact keeps_optional_default rfl rfl
    case origins => exact keeps_optional_default rfl rfl
    case requests => exact keeps_optional_default rfl rfl
    case threshold => exact keeps_optional_default rfl rfl
    case compression => exact keeps_optional_default rfl rfl

theorem resourceDefaults_agree : ResourceSettings.fields.Agrees (fieldData resourceDefaults) where
  accepts := by decide
  keeps get := by
    refine .apply (.apply (.apply (.apply (.apply (.apply (.apply (keeps_value _) ?debounce) ?decode) ?semicolon)
      ?fullPath) ?create) ?patterns) ?mappings
    case debounce => exact keeps_optional_default rfl rfl
    case decode => exact keeps_optional_default rfl rfl
    case semicolon => exact keeps_optional_default rfl rfl
    case fullPath => exact keeps_optional_default rfl rfl
    case create => exact keeps_optional_default rfl rfl
    case patterns => exact keeps_optional_no_default rfl
    case mappings => exact keeps_optional_no_default rfl

theorem mappingDefault_agrees : MappingSettings.fields.Agrees (fieldData [mappingDefault]) where
  accepts := by decide
  keeps get := by
    refine .apply (.apply (.apply (keeps_value _) ?pattern) ?locations) ?enabled
    case pattern => exact keeps_required_default
    case locations => exact keeps_required_default
    case enabled => exact keeps_optional_default rfl rfl

/-- a section that is absent means the defaults alone -/
theorem resourceDefaults_usual :
    ResourceSettings.decoder (.table (fieldData resourceDefaults)) = .ok ResourceSettings.usual := rfl

/-! ## Sections -/

/-- **A configuration is read** from a server section and perhaps a resources section, of which the first one counts -/
theorem Settings.decoder_eq_ok_iff {root : List (Text × Data)} {c : Settings} :
    Settings.decoder (.table root) = .ok c ↔
      (∀ e ∈ root, (e.1 = "server".toList → ∃ a, ServerSettings.decoder e.2 = .ok a) ∧
        (e.1 = "resources".toList → ∃ a, ResourceSettings.decoder e.2 = .ok a)) ∧
      (∃ d, root.lookup "server".toList = some d ∧ ServerSettings.decoder d = .ok c.server) ∧
      (root.lookup "resources".toList = none ∧ c.resources = .usual ∨
        ∃ d, root.lookup "resources".toList = some d ∧ ResourceSettings.decoder d = .ok c.resources) := by
  have hchecks : Settings.fields.checks = [("server".toList, Fields.fault? ServerSettings.decoder),
      ("resources".toList, Fields.fault? ResourceSettings.decoder)] := rfl
  have haccepts : ∀ e : Text × Data, Settings.fields.Accepts e ↔
      (e.1 = "server".toList → ∃ a, ServerSettings.decoder e.2 = .ok a) ∧
        (e.1 = "resources".toList → ∃ a, ResourceSettings.decoder e.2 = .ok a) := by
    intro e
    rw [accepts_iff_of_two hchecks (by decide), Fields.fault?_eq_none_iff, Fields.fault?_eq_none_iff]
  have hbuild : ∀ get, Settings.fields.build .missingField get = .ok c ↔
      (∃ d, get "server".toList = some d ∧ ServerSettings.decoder d = .ok c.server) ∧
      (get "resources".toList = none ∧ c.resources = .usual ∨
        ∃ d, get "resources".toList = some d ∧ ResourceSettings.decoder d = .ok c.resources) := by
    intro get
    obtain ⟨server, resources⟩ := c
    simp only [Settings.fields, Fields.apply, Fields.required, Fields.optional, Fields.value]
    cases get "server".toList with
    | none => simp
    | some d =>
      cases hserver : ServerSettings.decoder d with
      | error e => simp [hserver]
      | ok a =>
        cases get "resources".toList with
        | none => simp [hserver, eq_comm]
        | some d' => cases hresources : ResourceSettings.decoder d' <;> simp [hserver, hresources]
  rw [Settings.decoder, Fields.decode, ofEntries_eq_ok_iff, hbuild]
  exact and_congr_left' (forall₂_congr fun e _ => haccepts e)

/-! ## What can be missing -/

theorem ServerSettings.needs : ServerSettings.fields.Needs ["host".toList, "port".toList, "base_url".toList] :=
  needs_value _
    |>.apply (needs_required _ _)
    |>.apply (needs_required _ _)
    |>.apply (needs_required _ _)
    |>.apply (needs_optional _ _ _)
    |>.apply (needs_optional _ _ _)
    |>.apply (needs_optional _ _ _)
    |>.apply (needs_optional _ _ _)
    |>.apply (needs_optional _ _ _)
    |>.apply (needs_optional _ _ _)
    |>.apply (needs_optional _ _ _)
    |>.apply (needs_optional _ _ _)

/-- the server section holds plain values only -/
theorem ServerSettings.missingFrom : ServerSettings.fields.MissingFrom fun _ _ _ => False :=
  missingFrom_value _
    |>.apply (missingFrom_required_plain Decoder.plain_text)
    |>.apply (missingFrom_required_plain (Decoder.plain_natural _ _))
    |>.apply (missingFrom_required_plain Decoder.plain_text)
    |>.apply (missingFrom_optional_plain Decoder.plain_text)
    |>.apply (missingFrom_optional_plain Decoder.plain_flag)
    |>.apply (missingFrom_optional_plain (Decoder.plain_natural _ _))
    |>.apply (missingFrom_optional_plain (Decoder.plain_natural _ _))
    |>.apply (missingFrom_optional_plain (Decoder.plain_list Decoder.plain_text))
    |>.apply (missingFrom_optional_plain (Decoder.plain_natural _ _))
    |>.apply (missingFrom_optional_plain (Decoder.plain_natural _ _))
    |>.apply (missingFrom_optional_plain Decoder.plain_flag)

theorem MappingSettings.needs : MappingSettings.fields.Needs ["pattern".toList, "locations".toList] :=
  needs_value _
    |>.apply (needs_required _ _)
    |>.apply (needs_required _ _)
    |>.apply (needs_optional _ _ _)

theorem MappingSettings.missingFrom : MappingSettings.fields.MissingFrom fun _ _ _ => False :=
  missingFrom_value _
    |>.apply (missingFrom_required_plain Decoder.plain_text)
    |>.apply (missingFrom_required_plain (Decoder.plain_list Decoder.plain_text))
    |>.apply (missingFrom_optional_plain Decoder.plain_flag)

theorem ResourceSettings.needs : ResourceSettings.fields.Needs [] :=
  needs_value _
    |>.apply (needs_optional _ _ _)
    |>.apply (needs_optional _ _ _)
    |>.apply (needs_optional _ _ _)
    |>.apply (needs_optional _ _ _)
    |>.apply (needs_optional _ _ _)
    |>.apply (needs_optional _ _ _)
    |>.apply (needs_optional _ _ _)

/-- of the resources section, only a mapping can miss something -/
theorem ResourceSettings.missingFrom :
    ResourceSettings.fields.MissingFrom fun name data fault =>
      name = "mappings".toList ∧
        ∃ items m, data = .array items ∧ m ∈ items ∧ MappingSettings.decoder m = .error fault :=
  missingFrom_value _
    |>.apply (missingFrom_optional_plain (Decoder.plain_natural _ _))
    |>.apply (missingFrom_optional_plain Decoder.plain_flag)
    |>.apply (missingFrom_optional_plain Decoder.plain_flag)
    |>.apply (missingFrom_optional_plain Decoder.plain_flag)
    |>.apply (missingFrom_optional_plain Decoder.plain_flag)
    |>.apply (missingFrom_optional_plain (Decoder.plain_map (Decoder.plain_list Decoder.plain_text) _))
    |>.apply (missingFrom_optional fun _ _ h hm => ⟨rfl, Decoder.list_eq_error h hm⟩)

theorem Settings.needs : Settings.fields.Needs ["server".toList] :=
  needs_value _
    |>.apply (needs_required _ _)
    |>.apply (needs_optional _ _ _)

/-- what a configuration misses is missing in one of its sections -/
theorem Settings.missingFrom :
    Settings.fields.MissingFrom fun name data fault =>
      name = "server".toList ∧ ServerSettings.decoder data = .error fault ∨
        name = "resources".toList ∧ ResourceSettings.decoder data = .error fault :=
  missingFrom_value _
    |>.apply (missingFrom_required fun _ _ h _ => .inl ⟨rfl, h⟩)
    |>.apply (missingFrom_optional fun _ _ h _ => .inr ⟨rfl, h⟩)

/-! ## The order of keys -/

open Toml.Decoder in
theorem ServerSettings.respects : ServerSettings.fields.Respects :=
  respects_value _
    |>.apply (respects_required _ respects_text)
    |>.apply (respects_required _ (respects_natural _ _))
    |>.apply (respects_required _ respects_text)
    |>.apply (respects_optional _ _ respects_text)
    |>.apply (respects_optional _ _ respects_flag)
    |>.apply (respects_optional _ _ (respects_natural _ _))
    |>.apply (respects_optional _ _ (respects_natural _ _))
    |>.apply (respects_optional _ _ (respects_list respects_text))
    |>.apply (respects_optional _ _ (respects_natural _ _))
    |>.apply (respects_optional _ _ (respects_natural _ _))
    |>.apply (respects_optional _ _ respects_flag)

open Toml.Decoder in
theorem MappingSettings.respects : MappingSettings.fields.Respects :=
  respects_value _
    |>.apply (respects_required _ respects_text)
    |>.apply (respects_required _ (respects_list respects_text))
    |>.apply (respects_optional _ _ respects_flag)

open Toml.Decoder in
theorem ResourceSettings.respects : ResourceSettings.fields.Respects :=
  respects_value _
    |>.apply (respects_optional _ _ (respects_natural _ _))
    |>.apply (respects_optional _ _ respects_flag)
    |>.apply (respects_optional _ _ respects_flag)
    |>.apply (respects_optional _ _ respects_flag)
    |>.apply (respects_optional _ _ respects_flag)
    |>.apply (respects_optional _ _ ((respects_list respects_text).map _))
    |>.apply (respects_optional _ _ (respects_list (MappingSettings.respects.decode _)))

/-- **The order of keys does not matter** to the settings -/
theorem Settings.decoder_respects : Settings.decoder.Respects :=
  Respects.decode (respects_value _
    |>.apply (respects_required _ (ServerSettings.respects.decode _))
    |>.apply (respects_optional _ _ (ResourceSettings.respects.decode _))) _

end ResourceServer
