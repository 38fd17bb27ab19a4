/-
What a server announces about the patterns with public URLs.

A start and a reload tell once which patterns have public URLs, and whether they were detected or configured. A start
asks the provider. A reload asks its settings, and a provider that was configured by earlier settings stays so.
- `announcements_start`, `announcements_reload`: the one announcement of a start and of a reload.
- `InStep.autodetect_iff`: the provider detects its patterns just if no settings applied so far have public patterns.
- `reload_announces`: so a reload announces the mode of the provider, but for settings without public patterns after
  some that had them.
- `pinned_announced_refreshed`: there it announces detected patterns, and the provider keeps the configured ones.
-/
import ResourceServer.Proofs.Server.Reload

namespace ResourceServer

open Files Routing PublicUrl

variable {tree : FileTree} {path : Text} {s s' : Server} {c : Settings}

/-! ## Announcements among signals -/

/-- the event of a signal that tells which patterns have public URLs -/
def Signal.announcement? : Signal → Option Event
  | .event (.mappingsRefreshed patterns) => some (.mappingsRefreshed patterns)
  | .event (.mappingsConfigured patterns) => some (.mappingsConfigured patterns)
  | _ => none

/-- what signals tell about the patterns with public URLs -/
def announcements (signals : List Signal) : List Event := signals.filterMap Signal.announcement?

@[simp] theorem announcements_append (first second : List Signal) :
    announcements (first ++ second) = announcements first ++ announcements second := List.filterMap_append

@[simp] theorem announcements_loaded (l : Loaded) : announcements l.signals = [] := by
  rw [Loaded.signals]
  split_ifs <;> rfl

@[simp] theorem announcements_restartWarnings (old new : ServerSettings) :
    announcements (restartWarnings old new) = [] := by
  rw [restartWarnings, announcements_append, announcements_append]
  split_ifs <;> rfl

theorem announcements_prepareLocation (create : Bool) (tree : FileTree) (pattern location : Text) :
    announcements (prepareLocation create tree pattern location).2 = [] := by
  rw [prepareLocation]
  split_ifs
  · split <;> rfl
  · rfl
  · rfl

@[simp] theorem announcements_prepareLocations (tree : FileTree) (r : ResourceSettings) :
    announcements (prepareLocations tree r).2 = [] := by
  rw [prepareLocations]
  -- the signals collected so far are as silent as those of each place
  suffices h : ∀ (places : List (Text × Text)) (acc : FileTree × List Signal), announcements acc.2 = [] →
      announcements (places.foldl (fun acc place =>
        ((prepareLocation r.createLocations acc.1 place.1 place.2).1,
          acc.2 ++ (prepareLocation r.createLocations acc.1 place.1 place.2).2)) acc).2 = [] from
    h r.places (tree, []) rfl
  intro places
  induction places with
  | nil => exact fun acc hacc => hacc
  | cons place places ih =>
    intro acc hacc
    refine ih _ ?_
    rw [announcements_append, hacc, announcements_prepareLocation, List.append_nil]

@[simp] theorem announcements_route (s : ServerState) (r : ResourceSettings) (table : RouteTable) :
    announcements (s.route r table).2 = [] := by
  rw [ServerState.route]
  cases r.publicPatterns with
  | some patterns => simp [explicitWarnings, announcements, Signal.announcement?]
  | none =>
    dsimp only
    split_ifs <;> rfl

@[simp] theorem announcements_contextEntry (c : Settings) : announcements (contextEntry c) = [] := by
  rw [contextEntry]
  split_ifs <;> rfl

/-! ## A start and a reload -/

theorem announcements_mappingsEvent (s : ServerState) : announcements [.event s.mappingsEvent] = [s.mappingsEvent] := by
  rw [ServerState.mappingsEvent]
  split_ifs <;> rfl

theorem announcements_loadSettings (tree : FileTree) (path : Text) :
    announcements (loadSettings tree path).signals = [] := by
  have hloading : ∀ p signals, announcements (.event (.configLoading p) :: signals) = announcements signals :=
    fun _ _ => rfl
  rw [loadSettings]
  split
  · rw [hloading, announcements_loaded]
  · dsimp only
    rw [announcements_append, announcements_append, hloading, announcements_loaded]
    split_ifs <;> rfl

theorem announcements_startState {state : ServerState} (h : (startState tree c).result = .ok state) :
    announcements (startState tree c).signals = [state.mappingsEvent] := by
  rw [startState] at h ⊢
  dsimp only at h ⊢
  cases happly : (ServerState.ofServer c.server).apply c with
  | error e => simp [happly] at h
  | ok applied =>
    obtain ⟨state', told⟩ := applied
    obtain ⟨table, -, hroute⟩ := ServerState.apply_eq_ok_iff.1 happly
    have htold : announcements told = [] := by
      rw [← announcements_route (ServerState.ofServer c.server) c.resources table, hroute]
    simp only [happly, Except.ok.injEq] at h ⊢
    rw [announcements_append, announcements_append, announcements_prepareLocations, htold, announcements_mappingsEvent, h]
    rfl

/-- **A start** announces the mode of its provider -/
theorem announcements_start (h : (Server.start tree path).result = .ok s) :
    announcements (Server.start tree path).signals = [s.state.mappingsEvent] := by
  rw [Server.start] at h ⊢
  dsimp only at h ⊢
  split at h
  · cases h
  · split at h
    · cases h
    · rename_i state hstate
      cases h
      simp only [announcements_append, announcements_loadSettings, announcements_startState hstate,
        announcements_contextEntry, List.nil_append, List.append_nil]

theorem announcements_keptSignals (c : Settings) (s : Server) :
    announcements (Reload.keptSignals c s) = [reloadEvent c s.state.patterns] := by
  rw [Reload.keptSignals, reloadEvent]
  split_ifs <;> rfl

/-- **A reload** announces what its settings say -/
theorem announcements_reload (h : (s.reload tree).result = .ok s') :
    announcements (s.reload tree).signals = [reloadEvent s'.settings s'.state.patterns] := by
  have hsignals : (s.reload tree).signals = (Reload.finish tree s).1.signals := rfl
  rw [Server.reload_result] at h
  rw [hsignals]
  rcases Reload.finish_cases tree s with ⟨c, table, hsome, htable, hok, hserver⟩ | ⟨fault, -, herror, -⟩
  · obtain ⟨hpresent, hload⟩ := adoptable?_eq_some hsome
    rw [hok, hserver] at h
    cases h
    rw [Reload.finish_eq_of_routed hpresent hload htable]
    simp only [Reload.readingSignals, announcements_append, announcements_loaded, announcements_restartWarnings,
      announcements_prepareLocations, announcements_route, announcements_keptSignals, List.nil_append]
  · rw [herror] at h
    cases h

/-! ## The mode of the provider -/

/-- the provider detects its patterns just if no settings applied so far have public patterns -/
theorem InStep.autodetect_iff {first : Settings} {later : List Settings} (h : InStep path first later s) :
    s.state.provider.autodetect = true ↔ ∀ c ∈ first :: later, c.resources.publicPatterns = none := by
  have hcurrent : Current s.state (successes (first :: later)) := by
    rw [h.state]
    exact run_current _ _ _
  rw [hcurrent.autodetect_iff]
  constructor
  · intro hall c hc
    obtain ⟨table, htable⟩ := h.routed c hc
    exact hall (c, table) (mem_successes_iff.2 ⟨hc, htable⟩)
  · rintro hall ⟨c, table⟩ hcall
    exact hall c (mem_successes_iff.1 hcall).1

/-- so a reload leaves a provider that detects them just if neither its own nor any earlier settings have some -/
theorem InStep.autodetect_reload_iff {first : Settings} {later : List Settings} (h : InStep path first later s)
    (hresult : (s.reload tree).result = .ok s') :
    s'.state.provider.autodetect = true ↔
      s'.settings.resources.publicPatterns = none ∧ ∀ c ∈ first :: later, c.resources.publicPatterns = none := by
  rw [Server.reload_result] at hresult
  rcases Reload.finish_cases tree s with ⟨c, table, -, htable, hok, hserver⟩ | ⟨fault, -, herror, -⟩
  · rw [hok, hserver] at hresult
    cases hresult
    rw [(h.adopt htable).autodetect_iff, ← List.cons_append, List.forall_mem_append, List.forall_mem_singleton, and_comm]
  · rw [herror] at hresult
    cases hresult

/-- settings and a provider call for the same announcement just if both are without public patterns, or neither -/
theorem reloadEvent_eq_mappingsEvent_iff (c : Settings) (s : ServerState) :
    reloadEvent c s.patterns = s.mappingsEvent ↔
      (c.resources.publicPatterns = none ↔ s.provider.autodetect = true) := by
  rw [reloadEvent, ServerState.mappingsEvent]
  cases c.resources.publicPatterns <;> cases s.provider.autodetect <;> simp

/-- **What is announced.** A start announces the mode of its provider. A reload, after any history, makes one
announcement, of configured patterns if its settings have public ones and else of detected patterns. This is the mode of
the provider just if the settings have public patterns or none that were applied before had any. -/
theorem reload_announces (h : (Server.start tree path).result = .ok s) (ops : List ServerOp) :
    let start := ((Server.start tree path).tree, s)
    let world := runServer start ops
    announcements (Server.start tree path).signals = [s.state.mappingsEvent] ∧
    ∀ s', (world.2.reload world.1).result = .ok s' →
      announcements (world.2.reload world.1).signals = [reloadEvent s'.settings s'.state.patterns] ∧
      (s'.state.provider.autodetect = true ↔ s'.settings.resources.publicPatterns = none ∧
        ∀ c ∈ s.settings :: adoptions start ops, c.resources.publicPatterns = none) ∧
      (announcements (world.2.reload world.1).signals = [s'.state.mappingsEvent] ↔
        (s'.settings.resources.publicPatterns = none →
          ∀ c ∈ s.settings :: adoptions start ops, c.resources.publicPatterns = none)) := by
  intro start world
  have hstart : InStep path s.settings [] start.2 := inStep_start h
  have hworld : InStep path s.settings (adoptions start ops) world.2 := hstart.run ops
  refine ⟨announcements_start h, fun s' hresult => ?_⟩
  have hsignals := announcements_reload hresult
  have hauto := hworld.autodetect_reload_iff hresult
  refine ⟨hsignals, hauto, ?_⟩
  rw [hsignals, List.singleton_inj, reloadEvent_eq_mappingsEvent_iff, hauto]
  exact ⟨fun hiff hnone => (hiff.1 hnone).2, fun hall => ⟨fun hnone => ⟨hnone, hall hnone⟩, And.left⟩⟩

/-! ## Public patterns that are taken back -/

/-- the complete configuration, with public patterns -/
def pinnedText : Text :=
  ["[server]".toList, "host = \"h\"".toList, "port = 1".toList, "base_url = \"u\"".toList,
    "context_path = \"\"".toList, "tcp_nodelay = true".toList, "timeout_secs = 60".toList,
    "max_body_size_mb = 10".toList, "max_concurrent_requests = 9".toList, "streaming_threshold_mb = 8".toList,
    "enable_compression = true".toList, "allowed_origins = []".toList,
    "[resources]".toList, "public_patterns = [\"a\"]".toList, "config_watch_debounce_ms = 5".toList,
    "url_decode = true".toList, "remove_semicolon_content = true".toList, "always_use_full_path = true".toList,
    "create_locations = true".toList,
    "[[resources.mappings]]".toList, "pattern = \"a\"".toList, "locations = [\"x\"]".toList,
    "enabled = true".toList].flatMap (· ++ ['\n'])

/-- what it says -/
def pinnedSettings : Settings :=
  { watchedSettings with resources := { watchedSettings.resources with publicPatterns := some [['a']] } }

/-- the file `/c` with it -/
def pinnedTree : FileTree := ⟨[([['c']], .file pinnedText)], []⟩

theorem serverStep_write (world : FileTree × Server) (content : Text) :
    serverStep world (.write content) =
      ((world.1.write world.2.configPath content).toOption.getD world.1, world.2) := by
  rw [serverStep]
  cases world.1.write world.2.configPath content <;> rfl

/-- the files after a start with public patterns, and an edit that takes them back -/
def unpinnedTree : FileTree :=
  let tree := (Server.start pinnedTree ['c']).tree
  (tree.write ['c'] watchedText).toOption.getD tree

/-- a start with public patterns, the edit that takes them back, and a reload -/
theorem reload_unpinned :
    ∃ s s', (Server.start pinnedTree ['c']).result = .ok s ∧ s.settings = pinnedSettings ∧
      let world := runServer ((Server.start pinnedTree ['c']).tree, s) [.write watchedText]
      (world.2.reload world.1).result = .ok s' ∧ s'.settings = watchedSettings := by
  have hload : (Settings.load pinnedTree ['c']).outcome = .ok pinnedSettings := eq_ok_of_toOption (by decide +kernel)
  have hkeys : (∀ m ∈ pinnedSettings.resources.enabledMappings, Text.trim m.pattern ≠ []) ∧
      (pinnedSettings.resources.enabledMappings.map fun m => patternKey m.pattern).Nodup := by decide
  obtain ⟨table, htable⟩ := routeTable_ok_iff.2 hkeys
  obtain ⟨s, hstart, hpath, hsettings⟩ : ∃ s, (Server.start pinnedTree ['c']).result = .ok s ∧ s.configPath = ['c'] ∧
      s.settings = pinnedSettings := ⟨_, start_of_routed hload htable, rfl, rfl⟩
  have hworld : runServer ((Server.start pinnedTree ['c']).tree, s) [.write watchedText] = (unpinnedTree, s) := by
    rw [runServer, List.foldl_cons, List.foldl_nil, serverStep_write, hpath, unpinnedTree]
  have hedited : unpinnedTree.present s.configPath = true ∧
      (Settings.load unpinnedTree s.configPath).outcome.toOption = some watchedSettings := by
    rw [hpath]
    decide +kernel
  -- the patterns are the same in both settings, and so is their route table
  have hwatched : routeTable watchedSettings.resources = .ok table := htable
  obtain ⟨hok, hserver⟩ := Reload.finish_of_routed hedited.1 (eq_ok_of_toOption hedited.2) hwatched
  refine ⟨s, (Reload.finish unpinnedTree s).1.server, hstart, hsettings, ?_⟩
  rw [hworld]
  refine ⟨?_, by rw [hserver]⟩
  rw [Server.reload_result, hok, Except.map]

/-- the one announcement is that of the settings, and not that of the provider -/
theorem reload_announces_unpinned :
    ∃ s s', (Server.start pinnedTree ['c']).result = .ok s ∧
      announcements (Server.start pinnedTree ['c']).signals = [s.state.mappingsEvent] ∧
      let world := runServer ((Server.start pinnedTree ['c']).tree, s) [.write watchedText]
      (world.2.reload world.1).result = .ok s' ∧
      announcements (world.2.reload world.1).signals = [reloadEvent watchedSettings s'.state.patterns] ∧
      announcements (world.2.reload world.1).signals ≠ [s'.state.mappingsEvent] := by
  obtain ⟨s, s', hstart, hpinned, hresult, hwatched⟩ := reload_unpinned
  obtain ⟨hfirst, hreload⟩ := reload_announces hstart [.write watchedText]
  obtain ⟨hone, -, hiff⟩ := hreload s' hresult
  refine ⟨s, s', hstart, hfirst, hresult, by rw [hone, hwatched], fun hmode => ?_⟩
  have hnone := hiff.1 hmode (by rw [hwatched]; rfl) s.settings List.mem_cons_self
  rw [hpinned] at hnone
  cases hnone

theorem pinned_announced_refreshed :
    ∃ s s', (Server.start pinnedTree ['c']).result = .ok s ∧
      let world := runServer ((Server.start pinnedTree ['c']).tree, s) [.write watchedText]
      (world.2.reload world.1).result = .ok s' ∧ s'.state.provider.autodetect = false ∧
      announcements (world.2.reload world.1).signals = [.mappingsRefreshed s'.state.patterns] := by
  obtain ⟨s, s', hstart, hpinned, hresult, hwatched⟩ := reload_unpinned
  refine ⟨s, s', hstart, hresult, ?_, ?_⟩
  · refine Bool.eq_false_iff.2 fun hauto => ?_
    have hfirst : InStep ['c'] s.settings [] ((Server.start pinnedTree ['c']).tree, s).2 := inStep_start hstart
    have hworld := hfirst.run [.write watchedText]
    have hnone := ((hworld.autodetect_reload_iff hresult).1 hauto).2 s.settings List.mem_cons_self
    rw [hpinned] at hnone
    cases hnone
  · rw [announcements_reload hresult, hwatched]
    rfl

end ResourceServer
