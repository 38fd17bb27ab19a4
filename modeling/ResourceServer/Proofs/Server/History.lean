/-
The state of a server after any history of settings.

Some calls of a history fail. `successes` are the others, with the route tables they make, and `Current` says how the
state follows from them: the routes and the options are those of the last one; the provider detects its patterns from
the routes until a call has public patterns, and from then on keeps the handlers of the last call that had some.
- `Current.route`: a call that succeeds keeps the law.
- `run_current`: every history does.
- `run_history`: the same, with what a further call leaves and what patterns it makes known.
-/
import ResourceServer.Proofs.Server.State

namespace ResourceServer

open Routing PublicUrl Resource

variable {s : ServerState} {c : Settings} {table : RouteTable} {calls : List (Settings × RouteTable)}

/-- the calls of a history that succeed, each with its route table -/
def successes (history : List Settings) : List (Settings × RouteTable) :=
  history.filterMap fun c =>
    match routeTable c.resources with
    | .ok table => some (c, table)
    | .error _ => none

theorem successes_snoc_ok (history : List Settings) (h : routeTable c.resources = .ok table) :
    successes (history ++ [c]) = successes history ++ [(c, table)] := by
  simp [successes, List.filterMap_append, h]

theorem successes_snoc_error (history : List Settings) {e : RoutingError} (h : routeTable c.resources = .error e) :
    successes (history ++ [c]) = successes history := by
  simp [successes, List.filterMap_append, h]

theorem mem_successes_iff {history : List Settings} :
    (c, table) ∈ successes history ↔ c ∈ history ∧ routeTable c.resources = .ok table := by
  rw [successes, List.mem_filterMap]
  constructor
  · rintro ⟨c', hc', hcall⟩
    split at hcall
    · rename_i ht
      cases hcall
      exact ⟨hc', ht⟩
    · cases hcall
  · rintro ⟨hc, ht⟩
    exact ⟨c, hc, by simp [ht]⟩

theorem run_snoc (s : ServerState) (history : List Settings) (c : Settings) :
    s.run (history ++ [c]) = (s.run history).step c := by
  simp [ServerState.run, List.foldl_append]

/-! ## The law of a state and its calls -/

/-- the handlers are those of the public patterns of the last call that had some -/
def Configured (handlers : Bindings ResourceHandler) (calls : List (Settings × RouteTable)) : Prop :=
  ∃ before c table after patterns, calls = before ++ (c, table) :: after ∧
    c.resources.publicPatterns = some patterns ∧ (∀ call ∈ after, call.1.resources.publicPatterns = none) ∧
    ∀ k h, (k, h) ∈ handlers ↔ ∃ p ∈ patterns, Text.rootedForm p = k ∧ publicHandler? table p = some h

/-- the state that the calls leave -/
structure Current (s : ServerState) (calls : List (Settings × RouteTable)) : Prop where
  start : calls = [] → s.routes = .empty ∧ s.provider.options = .standard
  last : ∀ before c table, calls = before ++ [(c, table)] →
    s.routes = table ∧ s.provider.options = c.resources.pathOptions
  autodetect_iff : s.provider.autodetect = true ↔ ∀ call ∈ calls, call.1.resources.publicPatterns = none
  detected : s.provider.autodetect = true → s.provider.handlers.toList = s.routes.resources
  configured : s.provider.autodetect = false → Configured s.provider.handlers calls

theorem current_initial (contextPath : Text) (thresholdMb : ℕ) : Current (.initial contextPath thresholdMb) [] where
  start _ := ⟨rfl, rfl⟩
  last before c table h := by simp at h
  autodetect_iff := by simp [ServerState.initial, Provider.initial]
  detected _ := rfl
  configured h := by cases h

/-- calls without public patterns keep what is configured -/
theorem Configured.snoc {handlers : Bindings ResourceHandler} (h : Configured handlers calls)
    (hc : c.resources.publicPatterns = none) : Configured handlers (calls ++ [(c, table)]) := by
  obtain ⟨before, c', table', after, patterns, rfl, hp, hafter, hmem⟩ := h
  refine ⟨before, c', table', after ++ [(c, table)], patterns, by simp, hp, ?_, hmem⟩
  intro call hcall
  rcases List.mem_append.1 hcall with hcall | hcall
  · exact hafter call hcall
  · rw [List.mem_singleton.1 hcall]
    exact hc

/-- **A call that succeeds** leaves the state of the calls with it -/
theorem Current.route (h : Current s calls) (ht : routeTable c.resources = .ok table) :
    Current (s.route c.resources table).1 (calls ++ [(c, table)]) := by
  have hstart : calls ++ [(c, table)] = [] → (s.route c.resources table).1.routes = .empty ∧
      (s.route c.resources table).1.provider.options = .standard := fun he => absurd he (by simp)
  have hlast : ∀ before c' table', calls ++ [(c, table)] = before ++ [(c', table')] →
      (s.route c.resources table).1.routes = table' ∧
        (s.route c.resources table).1.provider.options = c'.resources.pathOptions := by
    intro before c' table' he
    obtain ⟨-, he⟩ := List.append_inj' he rfl
    cases he
    exact ⟨ServerState.route_routes s c.resources table, ServerState.route_options s c.resources table⟩
  cases hp : c.resources.publicPatterns with
  | some patterns =>
    have hprovider := ServerState.route_of_publicPatterns s table hp
    refine ⟨hstart, hlast, ?_, ?_, ?_⟩ <;> rw [hprovider]
    · -- the call itself has public patterns
      refine iff_of_false Bool.false_ne_true fun hall => ?_
      rw [hall (c, table) (by simp)] at hp
      cases hp
    · intro hauto; cases hauto
    · intro _
      exact ⟨calls, c, table, [], patterns, rfl, hp, by simp, fun k h => mem_explicit_iff⟩
  | none =>
    have hauto := ServerState.route_autodetect s table hp
    refine ⟨hstart, hlast, ?_, ?_, ?_⟩
    · rw [hauto, h.autodetect_iff, List.forall_mem_append, List.forall_mem_singleton]
      exact (and_iff_left hp).symm
    · rw [hauto, ServerState.route_routes]
      exact fun hs => ServerState.route_handlers_of_autodetect hp hs ht
    · rw [hauto]
      intro hs
      rw [ServerState.route_handlers_of_configured table hp hs]
      exact (h.configured hs).snoc hp

theorem run_current (contextPath : Text) (thresholdMb : ℕ) (history : List Settings) :
    Current ((ServerState.initial contextPath thresholdMb).run history) (successes history) := by
  induction history using List.reverseRecOn with
  | nil => exact current_initial contextPath thresholdMb
  | append_singleton history c ih =>
    rw [run_snoc]
    cases ht : routeTable c.resources with
    | ok table =>
      rw [successes_snoc_ok history ht, ServerState.step_of_ok ht]
      exact ih.route ht
    | error e =>
      rw [successes_snoc_error history ht, ServerState.step_of_error ht]
      exact ih

/-- **The law of a history.** The state after a history follows from the calls that succeeded. A further call that fails
leaves it as it is; one that succeeds joins these calls, and the patterns that it makes known are the texts bound, in
order. -/
theorem run_history (contextPath : Text) (thresholdMb : ℕ) (history : List Settings) :
    let s := (ServerState.initial contextPath thresholdMb).run history
    Current s (successes history) ∧
    (∀ c e, s.apply c = .error e →
      (ServerState.initial contextPath thresholdMb).run (history ++ [c]) = s ∧
      successes (history ++ [c]) = successes history) ∧
    ∀ c s' signals, s.apply c = .ok (s', signals) →
      (ServerState.initial contextPath thresholdMb).run (history ++ [c]) = s' ∧
      (∃ table, routeTable c.resources = .ok table ∧
        successes (history ++ [c]) = successes history ++ [(c, table)]) ∧
      (s'.patterns.Pairwise fun p q => Text.order p q = .lt) ∧
      ∀ k, k ∈ s'.patterns ↔ ∃ h, (k, h) ∈ s'.provider.handlers := by
  intro s
  have hcurrent : Current s (successes history) := run_current contextPath thresholdMb history
  refine ⟨hcurrent, fun c e he => ?_, fun c s' signals hs => ?_⟩
  · have ht : routeTable c.resources = .error e := ServerState.apply_eq_error_iff.1 he
    rw [run_snoc, ServerState.step_of_error ht]
    exact ⟨rfl, successes_snoc_error history ht⟩
  · obtain ⟨table, ht, hroute⟩ := ServerState.apply_eq_ok_iff.1 hs
    have hrun : (ServerState.initial contextPath thresholdMb).run (history ++ [c]) = s' := by
      rw [run_snoc, ServerState.step_of_ok ht, hroute]
    exact ⟨hrun, ⟨table, ht, successes_snoc_ok history ht⟩, s'.provider.handlers.sorted_keys,
      fun k => Bindings.mem_keys_iff⟩

end ResourceServer
