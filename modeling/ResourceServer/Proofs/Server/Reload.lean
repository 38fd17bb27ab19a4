/-
Reloads keep a running server in step with what was applied to it.

A reload is a sequence of parts, each of which can end it. Here are its four ends, and what each of them leaves:
- `finish_of_missing`: the file is not there, and nothing at all has changed;
- `finish_of_unread`: there are no settings to be had from the file, and the server has not changed;
- `finish_of_unrouted`: the settings cannot be routed, and the server has not changed;
- `finish_of_routed`: the server has the settings, and the state that applying them leaves.

`adoptable?` tells from the files alone which settings a reload takes over, and `adoptions` which ones all reloads of a
history do. `InStep` is the law of a server and of the settings applied so far: its settings are the last ones, and its
state is what applying all of them in order leaves.
- `inStep_start`: a start brings it about.
- `InStep.step`: an edit, a removal and a reload keep it.
- `runServer_inStep`: so it holds after any history.
-/
import ResourceServer.Proofs.Config.Rules
import ResourceServer.Proofs.Server.History
import ResourceServer.Server.Reload

namespace ResourceServer

open Files Routing PublicUrl

/-! ## The parts of a reload -/

namespace Reload

variable {w : Reloading} {c : Settings}

theorem run_requireFile :
    requireFile.run w =
      if w.tree.present w.server.configPath then .ok () w else .error (.missing w.server.configPath) w := by
  rw [requireFile, EStateM.run_bind, EStateM.run_get]
  dsimp only
  cases w.tree.present w.server.configPath <;> rfl

theorem run_readSettings :
    readSettings.run w =
      let loaded := Settings.load w.tree w.server.configPath
      let w' := { w with tree := loaded.tree, signals := w.signals ++ loaded.signals }
      match loaded.outcome with
      | .ok c => .ok c w'
      | .error fault => .error (.config fault) w' := by
  rw [readSettings, EStateM.run_bind, EStateM.run_get]
  dsimp only
  rw [EStateM.run_bind, EStateM.run_set]
  cases (Settings.load w.tree w.server.configPath).outcome <;> rfl

theorem run_prepare (c : Settings) (w : Reloading) :
    (prepare c).run w =
      let (tree, prepared) := prepareLocations w.tree c.resources
      .ok () ⟨tree, w.server, w.signals ++ (restartWarnings w.server.settings.server c.server ++ prepared)⟩ := rfl

theorem run_applySettings :
    (applySettings c).run w =
      match w.server.state.apply c with
      | .ok (state, applied) => .ok () { w with server := { w.server with state }, signals := w.signals ++ applied }
      | .error e => .error (.routing e) w := by
  rw [applySettings, EStateM.run_bind, EStateM.run_get]
  dsimp only
  cases w.server.state.apply c <;> rfl

/-- what is told once settings are in force -/
def keptSignals (c : Settings) (s : Server) : List Signal :=
  [.event (reloadEvent c s.state.patterns), .event .configReloaded,
    .log ⟨.info, "Configuration reloaded from ".toList ++ s.configPath⟩]

theorem run_keepSettings (c : Settings) (w : Reloading) :
    (keepSettings c).run w =
      .ok () ⟨w.tree, { w.server with settings := c }, w.signals ++ keptSignals c w.server⟩ := rfl

/-! ## The ends of a reload -/

variable {tree : FileTree} {s : Server}

theorem finish_of_missing (h : tree.present s.configPath = false) :
    finish tree s = (⟨tree, s, []⟩, .error (.missing s.configPath)) := by
  rw [finish, whole, EStateM.run_bind, run_requireFile]
  simp only [h, Bool.false_eq_true, if_false]

theorem finish_of_unread {fault : ConfigFault} (hpresent : tree.present s.configPath = true)
    (hload : (Settings.load tree s.configPath).outcome = .error fault) :
    (finish tree s).2 = .error (.config fault) ∧ (finish tree s).1.server = s := by
  rw [finish, whole, EStateM.run_bind, run_requireFile]
  simp only [hpresent, if_true]
  rw [EStateM.run_bind, run_readSettings]
  simp only [hload, and_self]

/-- what is told on the way to the point where settings are applied -/
def readingSignals (tree : FileTree) (s : Server) (c : Settings) : List Signal :=
  let loaded := Settings.load tree s.configPath
  loaded.signals ++ (restartWarnings s.settings.server c.server ++ (prepareLocations loaded.tree c.resources).2)

/-- a reload that has read its settings comes to the point where they are applied, with the same server -/
theorem run_whole (hpresent : tree.present s.configPath = true)
    (hload : (Settings.load tree s.configPath).outcome = .ok c) :
    whole.run ⟨tree, s, []⟩ = (applySettings c >>= fun _ => keepSettings c).run
      ⟨(prepareLocations (Settings.load tree s.configPath).tree c.resources).1, s, readingSignals tree s c⟩ := by
  rw [whole, EStateM.run_bind, run_requireFile]
  simp only [hpresent, if_true]
  rw [EStateM.run_bind, run_readSettings]
  simp only [hload]
  rw [EStateM.run_bind, run_prepare]
  rfl

theorem finish_of_unrouted {e : RoutingError} (hpresent : tree.present s.configPath = true)
    (hload : (Settings.load tree s.configPath).outcome = .ok c) (hroute : routeTable c.resources = .error e) :
    (finish tree s).2 = .error (.routing e) ∧ (finish tree s).1.server = s := by
  rw [finish, run_whole hpresent hload, EStateM.run_bind, run_applySettings]
  simp only [ServerState.apply_eq_error_iff.2 hroute, and_self]

theorem finish_eq_of_routed {table : RouteTable} (hpresent : tree.present s.configPath = true)
    (hload : (Settings.load tree s.configPath).outcome = .ok c) (hroute : routeTable c.resources = .ok table) :
    finish tree s =
      let (state, applied) := s.state.route c.resources table
      (⟨(prepareLocations (Settings.load tree s.configPath).tree c.resources).1, ⟨s.configPath, c, state⟩,
        readingSignals tree s c ++ applied ++ keptSignals c ⟨s.configPath, s.settings, state⟩⟩, .ok ()) := by
  have happly : s.state.apply c = .ok (s.state.route c.resources table) :=
    ServerState.apply_eq_ok_iff.2 ⟨table, hroute, rfl⟩
  rw [finish, run_whole hpresent hload, EStateM.run_bind, run_applySettings]
  simp only [happly, run_keepSettings]

theorem finish_of_routed {table : RouteTable} (hpresent : tree.present s.configPath = true)
    (hload : (Settings.load tree s.configPath).outcome = .ok c) (hroute : routeTable c.resources = .ok table) :
    (finish tree s).2 = .ok () ∧
      (finish tree s).1.server = ⟨s.configPath, c, (s.state.route c.resources table).1⟩ := by
  rw [finish_eq_of_routed hpresent hload hroute]
  exact ⟨rfl, rfl⟩

end Reload

/-! ## What a reload takes over -/

/-- the settings that a reload of the file takes over: they can be read from the file that is there, and be routed -/
def adoptable? (tree : FileTree) (path : Text) : Option Settings :=
  if tree.present path then
    match (Settings.load tree path).outcome with
    | .ok c =>
      match routeTable c.resources with
      | .ok _ => some c
      | .error _ => none
    | .error _ => none
  else none

theorem adoptable?_eq_some {tree : FileTree} {path : Text} {c : Settings} (h : adoptable? tree path = some c) :
    tree.present path = true ∧ (Settings.load tree path).outcome = .ok c := by
  rw [adoptable?] at h
  split_ifs at h with hpresent
  split at h
  · rename_i hload
    split at h
    · cases h
      exact ⟨hpresent, hload⟩
    · cases h
  · cases h

/-- **A reload** takes settings over and applies them, or fails and leaves the server as it is -/
theorem Reload.finish_cases (tree : FileTree) (s : Server) :
    (∃ c table, adoptable? tree s.configPath = some c ∧ routeTable c.resources = .ok table ∧
      (finish tree s).2 = .ok () ∧ (finish tree s).1.server = ⟨s.configPath, c, (s.state.route c.resources table).1⟩) ∨
    ∃ fault, adoptable? tree s.configPath = none ∧ (finish tree s).2 = .error fault ∧ (finish tree s).1.server = s := by
  rw [adoptable?]
  cases hpresent : tree.present s.configPath with
  | false =>
    refine .inr ⟨.missing s.configPath, rfl, ?_⟩
    rw [finish_of_missing hpresent]
    exact ⟨rfl, rfl⟩
  | true =>
    cases hload : (Settings.load tree s.configPath).outcome with
    | error fault => exact .inr ⟨.config fault, rfl, finish_of_unread hpresent hload⟩
    | ok c =>
      cases hroute : routeTable c.resources with
      | error e => exact .inr ⟨.routing e, by simp [hroute], finish_of_unrouted hpresent hload hroute⟩
      | ok table => exact .inl ⟨c, table, by simp [hroute], hroute, finish_of_routed hpresent hload hroute⟩

theorem serverStep_reload (tree : FileTree) (s : Server) :
    serverStep (tree, s) .reload = ((Reload.finish tree s).1.tree, (Reload.finish tree s).1.server) := rfl

theorem Server.reload_result (tree : FileTree) (s : Server) :
    (s.reload tree).result = (Reload.finish tree s).2.map fun _ => (Reload.finish tree s).1.server := rfl

/-- the server that a watcher keeps after a reload is the one that the reload leaves -/
theorem Server.afterReload_reload (tree : FileTree) (s : Server) :
    s.afterReload (s.reload tree) = (serverStep (tree, s) .reload).2 := by
  rw [serverStep_reload, Server.afterReload, Server.reload_result]
  rcases Reload.finish_cases tree s with ⟨c, table, -, -, hok, -⟩ | ⟨fault, -, herror, hserver⟩
  · simp only [hok, Except.map]
  · simp only [herror, Except.map, hserver]

/-! ## In step -/

/-- the settings of the server are those applied last, and its state is what applying all of them in order leaves -/
structure InStep (path : Text) (first : Settings) (later : List Settings) (s : Server) : Prop where
  configPath : s.configPath = path
  settings : (first :: later).getLast? = some s.settings
  state : s.state = (ServerState.ofServer first.server).run (first :: later)
  routed : ∀ c ∈ first :: later, ∃ table, routeTable c.resources = .ok table

section InStep

variable {path : Text} {first : Settings} {later : List Settings} {tree : FileTree} {s : Server}

/-- the routes and the options of the state are those of the settings -/
theorem InStep.routes (h : InStep path first later s) :
    ∃ table, routeTable s.settings.resources = .ok table ∧ s.state.routes = table ∧
      s.state.provider.options = s.settings.resources.pathOptions := by
  obtain ⟨before, hsplit⟩ := List.getLast?_eq_some_iff.1 h.settings
  obtain ⟨table, htable⟩ := h.routed s.settings (by rw [hsplit]; simp)
  have hcurrent : Current s.state (successes (before ++ [s.settings])) := by
    rw [h.state, hsplit]
    exact run_current _ _ _
  obtain ⟨hroutes, hoptions⟩ := hcurrent.last _ _ _ (successes_snoc_ok before htable)
  exact ⟨table, htable, hroutes, hoptions⟩

/-- a start succeeds with the settings of the file, if they can be routed -/
theorem start_of_routed {c : Settings} {table : RouteTable} (hload : (Settings.load tree path).outcome = .ok c)
    (ht : routeTable c.resources = .ok table) :
    (Server.start tree path).result =
      .ok ⟨path, c, ((ServerState.ofServer c.server).route c.resources table).1⟩ := by
  have happly : (ServerState.ofServer c.server).apply c =
      .ok ((ServerState.ofServer c.server).route c.resources table) :=
    ServerState.apply_eq_ok_iff.2 ⟨table, ht, rfl⟩
  rw [Server.start]
  simp only [loadSettings, hload, startState, happly]

theorem start_eq_ok (h : (Server.start tree path).result = .ok s) :
    s.configPath = path ∧ ∃ table, routeTable s.settings.resources = .ok table ∧
      s.state = ((ServerState.ofServer s.settings.server).route s.settings.resources table).1 := by
  rw [Server.start] at h
  dsimp only at h
  split at h
  · cases h
  · rename_i c _
    rw [startState] at h
    dsimp only at h
    split at h
    · cases h
    · rename_i state hstate
      cases h
      split at hstate
      · cases hstate
      · rename_i state' applied happly
        cases hstate
        obtain ⟨table, htable, hroute⟩ := ServerState.apply_eq_ok_iff.1 happly
        exact ⟨rfl, table, htable, by rw [hroute]⟩

/-- **A start** applies its settings only -/
theorem inStep_start (h : (Server.start tree path).result = .ok s) : InStep path s.settings [] s := by
  obtain ⟨hpath, table, htable, hstate⟩ := start_eq_ok h
  refine ⟨hpath, rfl, ?_, fun c hc => ?_⟩
  · rw [hstate]
    exact (ServerState.step_of_ok htable).symm
  · rw [List.mem_singleton.1 hc]
    exact ⟨table, htable⟩

/-- settings that are applied join those before -/
theorem InStep.adopt {c : Settings} {table : RouteTable} (h : InStep path first later s)
    (ht : routeTable c.resources = .ok table) :
    InStep path first (later ++ [c]) ⟨s.configPath, c, (s.state.route c.resources table).1⟩ where
  configPath := h.configPath
  settings := by rw [← List.cons_append, List.getLast?_concat]
  state := by rw [← List.cons_append, run_snoc, ← h.state, ServerState.step_of_ok ht]
  routed c' hc' := by
    rw [← List.cons_append] at hc'
    rcases List.mem_append.1 hc' with hin | hin
    · exact h.routed c' hin
    · rw [List.mem_singleton.1 hin]
      exact ⟨table, ht⟩

/-- the settings that one operation takes over -/
def adopted (world : FileTree × Server) : ServerOp → List Settings
  | .reload => (adoptable? world.1 world.2.configPath).toList
  | .write _ => []
  | .remove => []

/-- the settings that the operations of a history take over, in order -/
def adoptions (world : FileTree × Server) : List ServerOp → List Settings
  | [] => []
  | op :: ops => adopted world op ++ adoptions (serverStep world op) ops

/-- **One operation** keeps a server in step -/
theorem InStep.step {world : FileTree × Server} (h : InStep path first later world.2) (op : ServerOp) :
    InStep path first (later ++ adopted world op) (serverStep world op).2 := by
  obtain ⟨tree, s⟩ := world
  cases op with
  | write content =>
    have hsame : (serverStep (tree, s) (.write content)).2 = s := by
      rw [serverStep]
      split <;> rfl
    rw [hsame, adopted, List.append_nil]
    exact h
  | remove =>
    rw [adopted, List.append_nil]
    exact h
  | reload =>
    rw [serverStep_reload, adopted]
    rcases Reload.finish_cases tree s with ⟨c, table, hsome, htable, -, hserver⟩ | ⟨fault, hnone, -, hserver⟩
    · rw [hsome, hserver]
      exact h.adopt htable
    · rw [hnone, hserver, Option.toList_none, List.append_nil]
      exact h

theorem InStep.run {world : FileTree × Server} (h : InStep path first later world.2) (ops : List ServerOp) :
    InStep path first (later ++ adoptions world ops) (runServer world ops).2 := by
  induction ops generalizing world later with
  | nil =>
    rw [adoptions, List.append_nil]
    exact h
  | cons op ops ih =>
    rw [adoptions, ← List.append_assoc]
    exact ih (h.step op)

/-- **Reloads keep a server in step.** After a start and any history of edits, removals and reloads, the settings are
those applied last, and the state is what applying the settings of the start and of all reloads that succeeded leaves. A
further reload that fails leaves the server as it is, and one without a file leaves the files as well; one that succeeds
takes over what the file says. -/
theorem runServer_inStep (h : (Server.start tree path).result = .ok s) (ops : List ServerOp) :
    let world := runServer ((Server.start tree path).tree, s) ops
    InStep path s.settings (adoptions ((Server.start tree path).tree, s) ops) world.2 ∧
    (∃ table, routeTable world.2.settings.resources = .ok table ∧ world.2.state.routes = table ∧
      world.2.state.provider.options = world.2.settings.resources.pathOptions) ∧
    (∀ fault, (world.2.reload world.1).result = .error fault →
      adoptable? world.1 path = none ∧ (serverStep world .reload).2 = world.2) ∧
    (world.1.present path = false →
      (world.2.reload world.1).result = .error (.missing path) ∧ serverStep world .reload = world) ∧
    ∀ s', (world.2.reload world.1).result = .ok s' →
      adoptable? world.1 path = some s'.settings ∧ (serverStep world .reload).2 = s' := by
  intro world
  have hstart : InStep path s.settings [] ((Server.start tree path).tree, s).2 := inStep_start h
  have hstep : InStep path s.settings (adoptions ((Server.start tree path).tree, s) ops) world.2 := hstart.run ops
  obtain ⟨tree', s'⟩ := world
  obtain rfl : s'.configPath = path := hstep.configPath
  refine ⟨hstep, hstep.routes, fun fault hresult => ?_, fun hmissing => ?_, fun next hresult => ?_⟩
  · rw [Server.reload_result] at hresult
    rcases Reload.finish_cases tree' s' with ⟨c, table, -, -, hok, -⟩ | ⟨_, hnone, -, hserver⟩
    · rw [hok] at hresult
      cases hresult
    · exact ⟨hnone, hserver⟩
  · rw [Server.reload_result, serverStep_reload, Reload.finish_of_missing hmissing]
    exact ⟨rfl, rfl⟩
  · rw [Server.reload_result] at hresult
    rcases Reload.finish_cases tree' s' with ⟨c, table, hsome, -, hok, hserver⟩ | ⟨fault, -, herror, -⟩
    · rw [hok] at hresult
      cases hresult
      rw [serverStep_reload, hserver]
      exact ⟨hsome, rfl⟩
    · rw [herror] at hresult
      cases hresult

end InStep

/-! ## A server with a complete configuration -/

/-- a configuration that says everything -/
def watchedText : Text :=
  ["[server]".toList, "host = \"h\"".toList, "port = 1".toList, "base_url = \"u\"".toList,
    "context_path = \"\"".toList, "tcp_nodelay = true".toList, "timeout_secs = 60".toList,
    "max_body_size_mb = 10".toList, "max_concurrent_requests = 9".toList, "streaming_threshold_mb = 8".toList,
    "enable_compression = true".toList, "allowed_origins = []".toList,
    "[resources]".toList, "config_watch_debounce_ms = 5".toList, "url_decode = true".toList,
    "remove_semicolon_content = true".toList, "always_use_full_path = true".toList, "create_locations = true".toList,
    "[[resources.mappings]]".toList, "pattern = \"a\"".toList, "locations = [\"x\"]".toList,
    "enabled = true".toList].flatMap (· ++ ['\n'])

/-- what it says -/
def watchedSettings : Settings where
  server := ⟨['h'], 1, ['u'], [], true, 60, 10, [], 9, 8, true⟩
  resources := ⟨5, true, true, true, true, none, [⟨['a'], [['x']], true⟩]⟩

/-- the file `/c` with it -/
def watchedTree : FileTree := ⟨[([['c']], .file watchedText)], []⟩

theorem start_watched :
    ∃ s, (Server.start watchedTree ['c']).result = .ok s ∧ s.settings = watchedSettings := by
  have hload : (Settings.load watchedTree ['c']).outcome = .ok watchedSettings :=
    eq_ok_of_toOption (by decide +kernel)
  have hkeys : (∀ m ∈ watchedSettings.resources.enabledMappings, Text.trim m.pattern ≠ []) ∧
      (watchedSettings.resources.enabledMappings.map fun m => patternKey m.pattern).Nodup := by decide
  obtain ⟨table, htable⟩ := routeTable_ok_iff.2 hkeys
  exact ⟨_, start_of_routed hload htable, rfl⟩

/-- a reload, and another one after the file was removed -/
theorem runServer_inStep_watched :
    ∃ s, (Server.start watchedTree ['c']).result = .ok s ∧
      let world := ((Server.start watchedTree ['c']).tree, s)
      let ops := [.reload, .remove, .reload]
      InStep ['c'] watchedSettings (adoptions world ops) (runServer world ops).2 := by
  obtain ⟨s, hstart, hsettings⟩ := start_watched
  refine ⟨s, hstart, ?_⟩
  rw [← hsettings]
  exact (runServer_inStep hstart [.reload, .remove, .reload]).1

end ResourceServer
