/-
A provider over any history of changes.

A configuration replaces all patterns, and so does a refresh as long as nothing was configured; a detection adds to what
is there. `Counted` takes from a history the pairs that count: those of the last operation that replaced all patterns,
and those of the detections behind it. Of the pairs with one pattern the last is bound.
- `LifeCycle`: the law of a provider and its history, and `LifeCycle.step`: one operation keeps it.
- `run_lifeCycle`: the law after any history, with what a further refresh and a further detection do.
-/
import ResourceServer.PublicUrl.Provider
import ResourceServer.Proofs.Routing.Table

namespace ResourceServer.PublicUrl.Provider

open Routing (Bindings RouteTable Handler)
open Routing.Bindings (BoundLast)
open Resource (ResourceHandler)

/-! ## The pairs that count -/

/-- the operation configures the provider -/
def Op.configures : Op → Bool
  | .configure _ => true
  | _ => false

/-- the operation replaces all patterns of a provider with the given history -/
def Op.Replaces (history : List Op) : Op → Prop
  | .configure _ => True
  | .refresh _ => ∀ op ∈ history, op.configures = false
  | _ => False

/-- the pairs that an operation begins anew with where it replaces all patterns -/
def Op.pairs : Op → List (Text × ResourceHandler)
  | .configure handlers => handlers
  | .refresh table => table.resources
  | _ => []

/-- the pairs of a detection -/
def Op.detected : Op → List (Text × ResourceHandler)
  | .detect table => table.resources
  | _ => []

/-- what a history that ends with a replacement begins anew with; a new provider begins with nothing -/
inductive Base : List Op → List (Text × ResourceHandler) → Prop where
  | initial : Base [] []
  | replaced {history : List Op} {op : Op} : op.Replaces history → Base (history ++ [op]) op.pairs

/-- none of the later operations replaces all patterns -/
def Undisturbed (history later : List Op) : Prop :=
  ∀ done op more, later = done ++ op :: more → ¬ op.Replaces (history ++ done)

/-- the pairs of a history that count: those of its last replacement, and behind them those of the later detections -/
def Counted (ops : List Op) (pairs : List (Text × ResourceHandler)) : Prop :=
  ∃ history later base, ops = history ++ later ∧ Base history base ∧ Undisturbed history later ∧
    pairs = base ++ later.flatMap Op.detected

variable {ops : List Op} {op : Op} {pairs : List (Text × ResourceHandler)} {p : Provider} {table : RouteTable} {k : Text}

theorem counted_nil : Counted [] [] := ⟨[], [], [], rfl, .initial, fun _ _ _ h => by simp at h, rfl⟩

/-- a replacement discards the pairs before it -/
theorem counted_replaced (h : op.Replaces ops) : Counted (ops ++ [op]) op.pairs :=
  ⟨ops ++ [op], [], op.pairs, (List.append_nil _).symm, .replaced h, fun _ _ _ h => by simp at h, (List.append_nil _).symm⟩

/-- any other operation adds what it detects -/
theorem Counted.snoc (h : Counted ops pairs) (hop : ¬ op.Replaces ops) : Counted (ops ++ [op]) (pairs ++ op.detected) := by
  obtain ⟨history, later, base, rfl, hbase, hlater, rfl⟩ := h
  refine ⟨history, later ++ [op], base, List.append_assoc _ _ _, hbase, fun done o more hsplit => ?_, ?_⟩
  · rcases List.eq_nil_or_concat more with rfl | ⟨more, last, rfl⟩
    · obtain ⟨rfl, hone⟩ := List.append_inj' hsplit rfl
      cases hone
      exact hop
    · rw [List.concat_eq_append, ← List.cons_append, ← List.append_assoc] at hsplit
      exact hlater done o more (List.append_inj' hsplit rfl).1
  · rw [List.flatMap_append, List.flatMap_singleton, List.append_assoc]

/-! ## The law of a provider and its history -/

/-- the provider that a history leaves -/
structure LifeCycle (ops : List Op) (p : Provider) : Prop where
  autodetect_iff : p.autodetect = true ↔ ∀ op ∈ ops, op.configures = false
  handlers : ∃ pairs, Counted ops pairs ∧ p.handlers = Bindings.insertAll .empty pairs

theorem lifeCycle_initial : LifeCycle [] initial := ⟨by simp [initial], [], counted_nil, rfl⟩

theorem run_snoc (ops : List Op) (op : Op) : run (ops ++ [op]) = (run ops).step op := by
  simp [run, List.foldl_append]

/-- only a configuration switches the detection off, and nothing switches it on -/
theorem step_autodetect (p : Provider) (op : Op) : (p.step op).autodetect = (p.autodetect && !op.configures) := by
  cases op with
  | configure handlers => exact (Bool.and_false _).symm
  | refresh table => exact (refresh_autodetect p table).trans (Bool.and_true _).symm
  | detect table => exact (Bool.and_true _).symm
  | setOptions options => exact (Bool.and_true _).symm
  | setMatcher matcher => exact (Bool.and_true _).symm
  | lookup path => exact (Bool.and_true _).symm

theorem LifeCycle.step_of_replaces (h : LifeCycle ops p) (hop : op.Replaces ops) :
    (p.step op).handlers = Bindings.insertAll .empty op.pairs := by
  cases op with
  | configure handlers => rfl
  | refresh table =>
    have hauto : p.autodetect = true := h.autodetect_iff.2 hop
    exact congrArg Provider.handlers (refresh_of_autodetect hauto)
  | _ => exact absurd hop not_false

theorem LifeCycle.step_of_not_replaces (h : LifeCycle ops p) (hop : ¬ op.Replaces ops) :
    (p.step op).handlers = p.handlers.insertAll op.detected := by
  cases op with
  | configure handlers => exact absurd trivial hop
  | refresh table =>
    have hauto : p.autodetect = false := Bool.eq_false_iff.2 fun hauto => hop (h.autodetect_iff.1 hauto)
    exact congrArg Provider.handlers (refresh_of_configured hauto)
  | _ => rfl

/-- **One operation** keeps the law -/
theorem LifeCycle.step (h : LifeCycle ops p) (op : Op) : LifeCycle (ops ++ [op]) (p.step op) where
  autodetect_iff := by
    rw [step_autodetect, Bool.and_eq_true, Bool.not_eq_true', h.autodetect_iff, List.forall_mem_append,
      List.forall_mem_singleton]
  handlers := by
    by_cases hop : op.Replaces ops
    · exact ⟨op.pairs, counted_replaced hop, h.step_of_replaces hop⟩
    · obtain ⟨pairs, hcounted, hbound⟩ := h.handlers
      refine ⟨pairs ++ op.detected, hcounted.snoc hop, ?_⟩
      rw [h.step_of_not_replaces hop, hbound, Bindings.insertAll_append]

theorem lifeCycle_run (ops : List Op) : LifeCycle ops (run ops) := by
  induction ops using List.reverseRecOn with
  | nil => exact lifeCycle_initial
  | append_singleton ops op ih =>
    rw [run_snoc]
    exact ih.step op

/-! ## Further operations -/

/-- a refresh that takes effect binds the patterns with files in the table, and no others -/
theorem mem_refresh_iff (h : p.autodetect = true) {f : ResourceHandler} :
    (k, f) ∈ (p.refresh table).handlers ↔ BoundLast table.resources k f := by
  rw [refresh_of_autodetect h]
  exact Bindings.mem_insertAll_empty_iff_boundLast

theorem exists_mem_refresh_iff (h : p.autodetect = true) :
    (∃ f, (k, f) ∈ (p.refresh table).handlers) ↔ table.Serves k := by
  simp only [mem_refresh_iff h, RouteTable.serves_iff]
  constructor
  · rintro ⟨f, hf⟩
    exact ⟨f, hf.mem⟩
  · rintro ⟨f, hf⟩
    exact Bindings.exists_boundLast_of_mem hf

/-- a detection binds the patterns with files in the table, in place of what was bound before -/
theorem get?_detect_of_serves (p : Provider) (h : table.Serves k) :
    ∃ f, BoundLast table.resources k f ∧ (p.detect table).handlers.get? k = some f := by
  obtain ⟨f₀, hf₀⟩ := RouteTable.serves_iff.1 h
  obtain ⟨f, hf⟩ := Bindings.exists_boundLast_of_mem hf₀
  exact ⟨f, hf, Bindings.get?_insertAll_of_boundLast _ hf⟩

/-- and leaves all other patterns alone -/
theorem get?_detect_of_not_serves (p : Provider) (h : ¬ table.Serves k) :
    (p.detect table).handlers.get? k = p.handlers.get? k := by
  refine Bindings.get?_insertAll_of_free _ fun e he hk => h (RouteTable.serves_iff.2 ⟨e.2, ?_⟩)
  rw [← hk]
  exact he

/-- **The life cycle of a provider.** After any history it detects its patterns just if it was never configured. A
further refresh changes nothing once it was, and before that leaves what the table alone says, in order and without
endpoints. A further detection binds the patterns that have files in the table and leaves the others. The patterns are
always those of the last replacement with the later detections on top. -/
theorem run_lifeCycle (ops : List Op) :
    let p := run ops
    (p.autodetect = true ↔ ∀ op ∈ ops, op.configures = false) ∧
    ((∃ op ∈ ops, op.configures = true) → ∀ table, run (ops ++ [.refresh table]) = p) ∧
    ((∀ op ∈ ops, op.configures = false) → ∀ table,
      (run (ops ++ [.refresh table])).handlers = (run [.refresh table]).handlers ∧
      (∀ k, (∃ f, (k, f) ∈ (run (ops ++ [.refresh table])).handlers) ↔ table.Serves k) ∧
      ∀ k f, (k, f) ∈ (run (ops ++ [.refresh table])).handlers ↔ BoundLast table.resources k f) ∧
    (∀ table k,
      (table.Serves k → ∃ f, BoundLast table.resources k f ∧
        (run (ops ++ [.detect table])).handlers.get? k = some f) ∧
      (¬ table.Serves k → (run (ops ++ [.detect table])).handlers.get? k = p.handlers.get? k)) ∧
    ∃ pairs, Counted ops pairs ∧ (p.handlers.keys.Pairwise fun k k' => Text.order k k' = .lt) ∧
      ∀ k f, (k, f) ∈ p.handlers ↔ BoundLast pairs k f := by
  intro p
  have hlaw : LifeCycle ops p := lifeCycle_run ops
  have hstep : ∀ op, run (ops ++ [op]) = p.step op := run_snoc ops
  simp only [hstep]
  refine ⟨hlaw.autodetect_iff, ?_, fun hall table => ?_, fun table k => ?_, ?_⟩
  · rintro ⟨op, hop, hconfigures⟩ table
    refine refresh_of_configured (Bool.eq_false_iff.2 fun hauto => ?_)
    rw [hlaw.autodetect_iff.1 hauto op hop] at hconfigures
    cases hconfigures
  · have hauto := hlaw.autodetect_iff.2 hall
    refine ⟨?_, fun k => exists_mem_refresh_iff hauto, fun k f => mem_refresh_iff hauto⟩
    calc (p.refresh table).handlers = Bindings.insertAll .empty table.resources := by rw [refresh_of_autodetect hauto]
      _ = (initial.refresh table).handlers := by rw [refresh_of_autodetect rfl]
  · exact ⟨get?_detect_of_serves p, get?_detect_of_not_serves p⟩
  · obtain ⟨pairs, hcounted, hbound⟩ := hlaw.handlers
    rw [hbound]
    exact ⟨pairs, hcounted, Bindings.sorted_keys _, fun k f => Bindings.mem_insertAll_empty_iff_boundLast⟩

end ResourceServer.PublicUrl.Provider
