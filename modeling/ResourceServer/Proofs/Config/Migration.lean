/-
Completing a configuration keeps what it says.

- `completeSection_eq_ok`, `completeMappings_cases`: what a completion does to a section, and to the mappings.
- `completeSection_sets`, `completeMappings_sets`: a completion gives each section, and the list of mappings, a new
  meaning, which is the old one with defaults for what was absent.
- `complete_preserves`: settings that were read before are read after it, and no field of a section is missing.
-/
import ResourceServer.Proofs.Config.Settings

namespace ResourceServer

open Toml Toml.Fields

variable {root root' : Table} {name : Text} {fields : List (Text × Value)} {names : List Text}

/-! ## What a completion changes -/

theorem dataOfEntries_withFields (fields : List (Text × Value)) (t : Table) :
    Item.dataOfEntries (withFields fields t).entries =
      filled (fieldData fields) (Item.dataOfEntries t.entries) := by
  have hmissing : ∀ f : Text × Value,
      ((Item.dataOfEntries t.entries).lookup f.1).isNone = !t.has f.1 := by
    intro f
    rw [TableOf.lookup_data, TableOf.has]
    cases t.get? f.1 <;> rfl
  rw [withFields, filled, fieldData, List.filter_map, Item.dataOfEntries_eq_map, List.map_append,
    ← Item.dataOfEntries_eq_map, List.map_map, missingFields]
  congr 2
  refine List.filter_congr fun f _ => ?_
  exact (hmissing f).symm

/-- the entries of a section, none if it is absent -/
def IsSection (root : List (Text × Data)) (name : Text) (entries : List (Text × Data)) : Prop :=
  root.lookup name = none ∧ entries = [] ∨ root.lookup name = some (.table entries)

/-- a section that is absent is added with all of its fields, and one that is a table gets those it lacks -/
theorem completeSection_eq_ok (h : completeSection name fields root = .ok (root', names)) :
    (root.get? name = none ∧
        root' = root.append (Key.bare name) (.table (withFields fields (TableOf.fresh false)))) ∨
      ∃ t, root.get? name = some (.table t) ∧ root' = root.replace name (.table (withFields fields t)) := by
  rw [completeSection] at h
  split at h
  · rename_i hnone
    cases h
    exact .inl ⟨hnone, rfl⟩
  · rename_i t hsome
    cases h
    exact .inr ⟨t, hsome, rfl⟩
  · cases h

/-- mappings under headers of their own are completed, and others stay -/
theorem completeMappings_cases (root : Table) :
    (∃ t ts, root.get? "resources".toList = some (.table t) ∧ t.get? "mappings".toList = some (.tables ts) ∧
        completeMappings root = (root.replace "resources".toList
          (.table (t.replace "mappings".toList (.tables (ts.map (withFields [mappingDefault]))))),
          missingMappingFields 0 ts)) ∨
      completeMappings root = (root, []) ∧ ∀ t ts, root.get? "resources".toList = some (.table t) →
        t.get? "mappings".toList ≠ some (.tables ts) := by
  rw [completeMappings]
  split
  · rename_i t hresources
    split
    · rename_i ts hmappings
      exact .inl ⟨t, ts, hresources, hmappings, rfl⟩
    · rename_i hmappings
      refine .inr ⟨rfl, fun t' ts ht' hts => hmappings ts ?_⟩
      rw [hresources] at ht'
      cases ht'
      exact hts
  · rename_i hresources
    exact .inr ⟨rfl, fun t ts ht _ => hresources t ht⟩

theorem completeSection_sets (h : completeSection name fields root = .ok (root', names)) :
    ∃ entries, IsSection (Item.dataOfEntries root.entries) name entries ∧
      Sets (Item.dataOfEntries root.entries) name (.table (filled (fieldData fields) entries))
        (Item.dataOfEntries root'.entries) := by
  rcases completeSection_eq_ok h with ⟨hnone, rfl⟩ | ⟨t, hsome, rfl⟩
  · refine ⟨[], .inl ⟨?_, rfl⟩, ?_⟩
    · rw [TableOf.lookup_data, hnone]; rfl
    · have hsets := sets_append (Key.bare name) (.table (withFields fields (TableOf.fresh false))) hnone
      rwa [Item.data_table, dataOfEntries_withFields] at hsets
  · refine ⟨Item.dataOfEntries t.entries, .inr ?_, ?_⟩
    · rw [TableOf.lookup_data, hsome]; rfl
    · have hsets := sets_replace (.table (withFields fields t)) hsome
      rwa [Item.data_table, dataOfEntries_withFields] at hsets

/-- the mappings stay, or those under headers of their own are completed -/
theorem completeMappings_sets (root : Table) :
    (completeMappings root).1 = root ∨
      ∃ entries, ∃ tables : List (List (Text × Data)), ∃ entries',
        (Item.dataOfEntries root.entries).lookup "resources".toList = some (.table entries) ∧
        entries.lookup "mappings".toList = some (.array (tables.map .table)) ∧
        Sets entries "mappings".toList (.array (tables.map fun es => .table (filled (fieldData [mappingDefault]) es)))
          entries' ∧
        Sets (Item.dataOfEntries root.entries) "resources".toList (.table entries')
          (Item.dataOfEntries (completeMappings root).1.entries) := by
  rcases completeMappings_cases root with ⟨t, ts, hresources, hmappings, heq⟩ | ⟨heq, -⟩
  · rw [heq]
    refine .inr ⟨Item.dataOfEntries t.entries, ts.map fun t => Item.dataOfEntries t.entries, _, ?_, ?_, ?_,
      sets_replace (.table _) hresources⟩
    · rw [TableOf.lookup_data, hresources]; rfl
    · rw [TableOf.lookup_data, hmappings, Option.map_some, Item.data_tables, List.map_map]
      rfl
    · have hsets := sets_replace (.tables (ts.map (withFields [mappingDefault]))) hmappings
      rw [Item.data_tables, List.map_map] at hsets
      rw [List.map_map]
      simpa only [Function.comp_def, dataOfEntries_withFields] using hsets
  · rw [heq]
    exact .inl rfl

/-- the stages of a completion -/
theorem complete_stages {d d' : Document} (h : d.complete = .ok (d', names)) :
    ∃ server resources serverNames resourceNames,
      completeSection "server".toList serverDefaults d.root = .ok (server, serverNames) ∧
      completeSection "resources".toList resourceDefaults server = .ok (resources, resourceNames) ∧
      d' = { d with root := (completeMappings resources).1 } ∧
      names = serverNames ++ resourceNames ++ (completeMappings resources).2 := by
  rw [Document.complete] at h
  split at h
  · cases h
  · rename_i server serverNames hserver
    split at h
    · cases h
    · rename_i resources resourceNames hresources
      cases h
      exact ⟨server, resources, serverNames, resourceNames, hserver, hresources, rfl, rfl⟩

/-! ## Settings that are read stay -/

section Reading

variable {old entries tables : List (Text × Data)} {new : Data} {c : Settings} {r : ResourceSettings}

theorem decoder_sets_server {es : List (Text × Data)} (hsection : IsSection old "server".toList es)
    (hsets : Sets old "server".toList (.table (filled (fieldData serverDefaults) es)) entries)
    (h : Settings.decoder (.table old) = .ok c) : Settings.decoder (.table entries) = .ok c := by
  obtain ⟨hentries, ⟨d, hd, hserver⟩, hresources⟩ := Settings.decoder_eq_ok_iff.1 h
  have hd' : d = .table es := by
    rcases hsection with ⟨hnone, -⟩ | hsome
    · rw [hnone] at hd; cases hd
    · rw [hsome] at hd; cases hd; rfl
  subst hd'
  have hnew := serverDefaults_agree.decode_filled hserver
  refine Settings.decoder_eq_ok_iff.2 ⟨fun e he => ?_, ⟨_, ?_, hnew⟩, ?_⟩
  · by_cases hname : e.1 = "server".toList
    · refine ⟨fun _ => ?_, fun hother => absurd (hname.symm.trans hother) (by decide)⟩
      rw [hsets.here e he hname]
      exact ⟨_, hnew⟩
    · exact hentries e (hsets.there e he hname)
  · rw [hsets.lookup, if_pos rfl]
  · rw [hsets.lookup, if_neg (by decide)]
    exact hresources

/-- a resources section that says the same, or one with the usual values where there was none -/
theorem decoder_sets_resources (hsets : Sets old "resources".toList new entries)
    (hkeeps : old.lookup "resources".toList = none ∧ ResourceSettings.decoder new = .ok .usual ∨
      ∃ d, old.lookup "resources".toList = some d ∧
        ∀ r, ResourceSettings.decoder d = .ok r → ResourceSettings.decoder new = .ok r)
    (h : Settings.decoder (.table old) = .ok c) : Settings.decoder (.table entries) = .ok c := by
  obtain ⟨hentries, hserver, hresources⟩ := Settings.decoder_eq_ok_iff.1 h
  have hnew : ResourceSettings.decoder new = .ok c.resources := by
    rcases hkeeps with ⟨hnone, husual⟩ | ⟨d, hsome, hd⟩
    · rcases hresources with ⟨-, hc⟩ | ⟨_, hsome, -⟩
      · rw [hc]; exact husual
      · rw [hnone] at hsome; cases hsome
    · rcases hresources with ⟨hnone, -⟩ | ⟨_, hsome', hc⟩
      · rw [hsome] at hnone; cases hnone
      · rw [hsome] at hsome'; cases hsome'
        exact hd _ hc
  refine Settings.decoder_eq_ok_iff.2 ⟨fun e he => ?_, ?_, .inr ⟨new, ?_, hnew⟩⟩
  · by_cases hname : e.1 = "resources".toList
    · refine ⟨fun hother => absurd (hname.symm.trans hother) (by decide), fun _ => ?_⟩
      rw [hsets.here e he hname]
      exact ⟨_, hnew⟩
    · exact hentries e (hsets.there e he hname)
  · rw [hsets.lookup, if_neg (by decide)]
    exact hserver
  · rw [hsets.lookup, if_pos rfl]

theorem decoder_sets_section {es : List (Text × Data)} (hsection : IsSection old "resources".toList es)
    (hsets : Sets old "resources".toList (.table (filled (fieldData resourceDefaults) es)) entries)
    (h : Settings.decoder (.table old) = .ok c) : Settings.decoder (.table entries) = .ok c := by
  refine decoder_sets_resources hsets ?_ h
  rcases hsection with ⟨hnone, rfl⟩ | hsome
  · exact .inl ⟨hnone, resourceDefaults_usual⟩
  · exact .inr ⟨_, hsome, fun r => resourceDefaults_agree.decode_filled⟩

/-- mappings that say the same leave the resources section as it was -/
theorem ResourceSettings.decoder_sets_mappings (hlookup : old.lookup "mappings".toList = some new)
    {new' : Data} (hsets : Sets old "mappings".toList new' entries)
    (hkeeps : ∀ ms, Decoder.list MappingSettings.decoder new = .ok ms →
      Decoder.list MappingSettings.decoder new' = .ok ms)
    (h : ResourceSettings.decoder (.table old) = .ok r) : ResourceSettings.decoder (.table entries) = .ok r := by
  obtain ⟨haccepts, hbuild⟩ := ofEntries_eq_ok_iff.1 h
  have hother : ∀ name, name ≠ "mappings".toList → entries.lookup name = old.lookup name :=
    fun name hname => by rw [hsets.lookup, if_neg hname]
  have hfields : ResourceSettings.fields.Keeps (fun name => old.lookup name) (fun name => entries.lookup name) := by
    refine .apply (.apply (.apply (.apply (.apply (.apply (.apply (keeps_value _) ?debounce) ?decode) ?semicolon)
      ?fullPath) ?create) ?patterns) ?mappings
    case debounce => exact keeps_optional_of_eq (hother _ (by decide))
    case decode => exact keeps_optional_of_eq (hother _ (by decide))
    case semicolon => exact keeps_optional_of_eq (hother _ (by decide))
    case fullPath => exact keeps_optional_of_eq (hother _ (by decide))
    case create => exact keeps_optional_of_eq (hother _ (by decide))
    case patterns => exact keeps_optional_of_eq (hother _ (by decide))
    case mappings =>
      have hnew : entries.lookup "mappings".toList = some new' := by rw [hsets.lookup, if_pos rfl]
      refine keeps_optional (fun data ms hdata hms => ⟨new', hnew, hkeeps ms ?_⟩) fun hnone => ?_
      · rw [hlookup] at hdata
        cases hdata
        exact hms
      · rw [hlookup] at hnone
        cases hnone
  refine ofEntries_eq_ok_iff.2 ⟨fun e he => ?_, hfields _ _ hbuild⟩
  by_cases hname : e.1 = "mappings".toList
  · have hold := haccepts _ (Text.mem_of_lookup hlookup)
    have hnew := hold.of_keeps rfl hkeeps
    rwa [← hname, ← hsets.here e he hname] at hnew
  · exact haccepts e (hsets.there e he hname)

end Reading

/-- completing the mappings keeps the settings -/
theorem decoder_completeMappings {c : Settings}
    (h : Settings.decoder (.table (Item.dataOfEntries root.entries)) = .ok c) :
    Settings.decoder (.table (Item.dataOfEntries (completeMappings root).1.entries)) = .ok c := by
  rcases completeMappings_sets root with hsame | ⟨es, tables, es', hresources, hmappings, hsets', hsets⟩
  · rw [hsame]
    exact h
  · refine decoder_sets_resources hsets (.inr ⟨_, hresources, fun r => ?_⟩) h
    refine ResourceSettings.decoder_sets_mappings hmappings hsets' fun ms hms => ?_
    exact Decoder.mapM_map_of_keeps (fun es _ m => mappingDefault_agrees.decode_filled) hms

/-! ## Nothing of a section is missing -/

/-- both sections are tables, the server section with all of its fields -/
structure Complete (root : List (Text × Data)) : Prop where
  server : ∃ es, root.lookup "server".toList = some (.table (filled (fieldData serverDefaults) es)) ∧
    ∀ e ∈ root, e.1 = "server".toList → e.2 = .table (filled (fieldData serverDefaults) es)
  resources : ∀ e ∈ root, e.1 = "resources".toList → ∃ es, e.2 = .table es

theorem Complete.sets_resources {old entries es : List (Text × Data)} (h : Complete old)
    (hsets : Sets old "resources".toList (.table es) entries) : Complete entries where
  server := by
    obtain ⟨server, hlookup, hall⟩ := h.server
    refine ⟨server, ?_, fun e he hname => ?_⟩
    · rw [hsets.lookup, if_neg (by decide)]
      exact hlookup
    · exact hall e (hsets.there e he fun hother => absurd (hname.symm.trans hother) (by decide)) hname
  resources e he hname := ⟨es, hsets.here e he hname⟩

/-- a mapping of a configuration -/
def MappingIn (d m : Data) : Prop :=
  ∃ root es items, d = .table root ∧ ("resources".toList, .table es) ∈ root ∧ ("mappings".toList, .array items) ∈ es ∧
    m ∈ items

theorem ServerSettings.not_missing {es : List (Text × Data)} {fault : DecodeFault}
    (h : ServerSettings.decoder (.table (filled (fieldData serverDefaults) es)) = .error fault) : ¬ fault.Missing := by
  intro hm
  rcases missing_of_entries ServerSettings.needs ServerSettings.missingFrom h hm with
    ⟨name, hname, hnone, -⟩ | ⟨_, -, hfalse⟩
  · rw [lookup_filled, Option.or_eq_none_iff] at hnone
    simp only [List.mem_cons, List.not_mem_nil, or_false] at hname
    rcases hname with rfl | rfl | rfl <;> cases hnone.2
  · exact hfalse

theorem ResourceSettings.missing {es : List (Text × Data)} {fault : DecodeFault}
    (h : ResourceSettings.decoder (.table es) = .error fault) (hm : fault.Missing) :
    ∃ items m, ("mappings".toList, .array items) ∈ es ∧ m ∈ items ∧ MappingSettings.decoder m = .error fault := by
  rcases missing_of_entries ResourceSettings.needs ResourceSettings.missingFrom h hm with
    ⟨_, hname, -⟩ | ⟨⟨name, data⟩, hin, rfl, items, m, rfl, hitem, hdecode⟩
  · cases hname
  · exact ⟨items, m, hin, hitem, hdecode⟩

/-- of the fields of a mapping, its pattern and its locations have no usual value -/
theorem MappingSettings.eq_of_missingField {m : Data} {name : Text}
    (h : MappingSettings.decoder m = .error (.missingField name)) :
    name = "pattern".toList ∨ name = "locations".toList := by
  have hfields : ∀ absent entries, MappingSettings.fields.ofEntries absent entries = .error (.missingField name) →
      ∃ n, (n = "pattern".toList ∨ n = "locations".toList) ∧ .missingField name = absent n := by
    intro absent entries hentries
    rcases missing_of_entries MappingSettings.needs MappingSettings.missingFrom hentries trivial with
      ⟨n, hn, -, hfault⟩ | ⟨_, -, hfalse⟩
    · exact ⟨n, by simpa using hn, hfault⟩
    · exact hfalse.elim
  cases m with
  | table entries =>
    obtain ⟨n, hn, hfault⟩ := hfields _ _ h
    cases hfault
    exact hn
  | date t =>
    obtain ⟨n, hn, hfault⟩ := hfields .missingField [] h
    cases hfault
    exact hn
  | array items =>
    obtain ⟨n, hn, hfault⟩ := hfields _ _ h
    cases hfault
  | _ => cases h

/-- in complete sections, only a mapping can miss something -/
theorem Complete.missing {root : List (Text × Data)} {fault : DecodeFault} (h : Complete root)
    (hfault : Settings.decoder (.table root) = .error fault) (hm : fault.Missing) :
    ∃ m, MappingIn (.table root) m ∧ MappingSettings.decoder m = .error fault := by
  rcases missing_of_entries Settings.needs Settings.missingFrom hfault hm with
    ⟨name, hname, hnone, -⟩ | ⟨⟨name, data⟩, hin, ⟨rfl, hserver⟩ | ⟨rfl, hresources⟩⟩
  · obtain ⟨server, hlookup, -⟩ := h.server
    rw [List.mem_singleton.1 hname, hlookup] at hnone
    cases hnone
  · obtain ⟨server, -, hall⟩ := h.server
    rw [hall _ hin rfl] at hserver
    exact absurd hm (ServerSettings.not_missing hserver)
  · obtain ⟨es, rfl⟩ := h.resources _ hin rfl
    obtain ⟨items, m, hmappings, hitem, hdecode⟩ := ResourceSettings.missing hresources hm
    exact ⟨m, ⟨root, es, items, rfl, hin, hmappings, hitem⟩, hdecode⟩

theorem complete_complete {d d' : Document} (h : d.complete = .ok (d', names)) :
    Complete (Item.dataOfEntries d'.root.entries) := by
  obtain ⟨server, resources, _, _, hserver, hresources, rfl, -⟩ := complete_stages h
  obtain ⟨es, -, hsets⟩ := completeSection_sets hserver
  obtain ⟨es', -, hsets'⟩ := completeSection_sets hresources
  have hcomplete : Complete (Item.dataOfEntries resources.entries) :=
    { server := by
        refine ⟨es, ?_, fun e he hname => ?_⟩
        · rw [hsets'.lookup, if_neg (by decide), hsets.lookup, if_pos rfl]
        · exact hsets.here e (hsets'.there e he fun hother => absurd (hname.symm.trans hother) (by decide)) hname
      resources := fun e he hname => ⟨_, hsets'.here e he hname⟩ }
  rcases completeMappings_sets resources with hsame | ⟨_, _, _, -, -, -, hsets''⟩
  · rw [hsame]
    exact hcomplete
  · exact hcomplete.sets_resources hsets''

/-- **A completion keeps the meaning** of a document, and leaves out no field of a section: what is read from the
document is read from the completed one, and what may still be missing there belongs to a mapping. -/
theorem complete_preserves {d d' : Document} (h : d.complete = .ok (d', names)) :
    (∀ c, Settings.decoder d.data = .ok c → Settings.decoder d'.data = .ok c) ∧
    (∀ fault, Settings.decoder d'.data = .error fault → fault.Missing →
      ∃ m, MappingIn d'.data m ∧ MappingSettings.decoder m = .error fault) ∧
    ∀ name ∈ Settings.fields.names ++ ServerSettings.fields.names ++ ResourceSettings.fields.names,
      Settings.decoder d'.data ≠ .error (.missingField name) := by
  have hmissing : ∀ fault, Settings.decoder d'.data = .error fault → fault.Missing →
      ∃ m, MappingIn d'.data m ∧ MappingSettings.decoder m = .error fault :=
    fun fault => (complete_complete h).missing
  refine ⟨fun c hc => ?_, hmissing, fun name hname hfault => ?_⟩
  · obtain ⟨server, resources, _, _, hserver, hresources, rfl, -⟩ := complete_stages h
    obtain ⟨es, hsection, hsets⟩ := completeSection_sets hserver
    obtain ⟨es', hsection', hsets'⟩ := completeSection_sets hresources
    exact decoder_completeMappings (decoder_sets_section hsection' hsets' (decoder_sets_server hsection hsets hc))
  · obtain ⟨m, -, hm⟩ := hmissing _ hfault trivial
    rcases MappingSettings.eq_of_missingField hm with rfl | rfl
    · exact absurd hname (by decide)
    · exact absurd hname (by decide)

/-- a document that gives what has to be given -/
def sparseDocument : Document :=
  let table (entries : List (Text × Item)) : Table :=
    entries.foldl (fun t e => t.append (Key.bare e.1) e.2) (.fresh false)
  let server := table [("host".toList, .value (.ofString ['h'])), ("port".toList, .value (.ofNat 80)),
    ("base_url".toList, .value (.ofString ['u']))]
  let mapping := table [("pattern".toList, .value (.ofString ['p'])),
    ("locations".toList, .value (.ofList [.ofString ['d']]))]
  ⟨table [("server".toList, .table server),
    ("resources".toList, .table (table [("mappings".toList, .tables [mapping])]))], []⟩

/-- what it means -/
def sparseSettings : Settings :=
  ⟨⟨['h'], 80, ['u'], [], true, 60, 10, [['*']], 1000, 8, true⟩,
    { ResourceSettings.usual with mappings := [⟨['p'], [['d']], true⟩] }⟩

theorem complete_preserves_sparse :
    ∃ d' names, sparseDocument.complete = .ok (d', names) ∧ names.length = 14 ∧
      Settings.decoder sparseDocument.data = .ok sparseSettings ∧ Settings.decoder d'.data = .ok sparseSettings := by
  refine ⟨_, _, rfl, rfl, rfl, ?_⟩
  exact (complete_preserves (d := sparseDocument) rfl).1 sparseSettings rfl

end ResourceServer
