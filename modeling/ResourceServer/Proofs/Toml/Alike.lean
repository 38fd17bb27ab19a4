/-
Documents that hold the same keys and values.

A document that is printed and read again may list its keys in another order, since what has a header of its own is
printed behind the lines without one. `Item.Alike` leaves order, spelling and layout out of account, and tells tables
under headers apart from values.
- `Document.PrintsBack`: the text of the document is read as one that holds the same keys and values.
- `Decoder.Respects`, `Fields.Respects`: what is read does not depend on the order of keys, as long as each key is bound
  once (`Item.Distinct`); kept field by field.
-/
import ResourceServer.Proofs.Toml.Fields
import ResourceServer.Proofs.Toml.Tables
import ResourceServer.Toml.Parser
import ResourceServer.Toml.Printer

namespace ResourceServer.Toml

/-! ## Items -/

/-- items that hold the same keys and values, in whatever order their tables list them -/
inductive Item.Alike : Item → Item → Prop
  | value {v w : Value} (data : v.data = w.data) : Alike (.value v) (.value w)
  | table {t u : Table} (keys : ∀ name, t.has name = u.has name)
      (items : ∀ name x y, t.get? name = some x → u.get? name = some y → Alike x y) : Alike (.table t) (.table u)
  | tables {ts us : List Table} (length : ts.length = us.length)
      (each : ∀ p ∈ ts.zip us, Alike (.table p.1) (.table p.2)) : Alike (.tables ts) (.tables us)

/-- no table of the item binds a key twice -/
inductive Item.Distinct : Item → Prop
  | value (v : Value) : Distinct (.value v)
  | table {t : Table} (keys : (t.entries.map (·.1.name)).Nodup) (items : ∀ e ∈ t.entries, Distinct e.2) :
      Distinct (.table t)
  | tables {ts : List Table} (each : ∀ t ∈ ts, Distinct (.table t)) : Distinct (.tables ts)

/-- the text of the document is read as a document that holds the same keys and values -/
def Document.PrintsBack (d : Document) : Prop :=
  ∃ d', Document.parse? d.text = some d' ∧ (Item.table d.root).Alike (.table d'.root)

variable {t u : Table} {name : Text} {x y : Item}

theorem Item.Alike.rel_get? (h : (Item.table t).Alike (.table u)) (name : Text) :
    Option.Rel Item.Alike (t.get? name) (u.get? name) := by
  cases h with
  | table keys items =>
    have hkeys := keys name
    rw [TableOf.has, TableOf.has] at hkeys
    cases hx : t.get? name with
    | none =>
      rw [hx, Option.isSome_none] at hkeys
      rw [Option.isSome_eq_false_iff.1 hkeys.symm |> Option.isNone_iff_eq_none.1]
      exact .none
    | some x =>
      rw [hx, Option.isSome_some] at hkeys
      obtain ⟨y, hy⟩ := Option.isSome_iff_exists.1 hkeys.symm
      rw [hy]
      exact .some (items name x y hx hy)

theorem Item.Distinct.keys (h : (Item.table t).Distinct) : (t.entries.map (·.1.name)).Nodup := by
  cases h with
  | table keys _ => exact keys

theorem Item.Distinct.items (h : (Item.table t).Distinct) : ∀ e ∈ t.entries, e.2.Distinct := by
  cases h with
  | table _ items => exact items

theorem Item.Distinct.of_get? (h : (Item.table t).Distinct) (hx : t.get? name = some x) : x.Distinct := by
  obtain ⟨key, hin, -⟩ := TableOf.mem_of_get? hx
  exact h.items _ hin

/-! ## What alike items say -/

/-- what items say that are alike, of which the second one binds its keys once -/
def Data.Alike (d d' : Data) : Prop := ∃ x y : Item, x.Alike y ∧ y.Distinct ∧ x.data = d ∧ y.data = d'

/-- entries of the same names that say alike -/
structure EntriesAlike (entries entries' : List (Text × Data)) : Prop where
  lookup : ∀ name, Option.Rel Data.Alike (entries.lookup name) (entries'.lookup name)
  mem : ∀ e ∈ entries', ∃ d, (e.1, d) ∈ entries ∧ d.Alike e.2

theorem entriesAlike_of_tables (h : (Item.table t).Alike (.table u)) (hu : (Item.table u).Distinct) :
    EntriesAlike (Item.dataOfEntries t.entries) (Item.dataOfEntries u.entries) where
  lookup name := by
    rw [TableOf.lookup_data, TableOf.lookup_data]
    have hname := h.rel_get? name
    cases hy : u.get? name with
    | none =>
      rw [hy] at hname
      generalize t.get? name = x at hname
      cases hname
      exact .none
    | some y =>
      rw [hy] at hname
      generalize t.get? name = x at hname
      cases hname with
      | some hxy => exact .some ⟨_, y, hxy, hu.of_get? hy, rfl, rfl⟩
  mem e he := by
    rw [Item.dataOfEntries_eq_map] at he
    obtain ⟨⟨key, y⟩, hin, rfl⟩ := List.mem_map.1 he
    have hname := h.rel_get? key.name
    rw [TableOf.get?_of_mem hu.keys hin] at hname
    cases hx : t.get? key.name with
    | none =>
      rw [hx] at hname
      cases hname
    | some x =>
      rw [hx] at hname
      cases hname with
      | some hxy =>
        refine ⟨x.data, Text.mem_of_lookup ?_, x, y, hxy, hu.items _ hin, rfl, rfl⟩
        rw [TableOf.lookup_data, hx, Option.map_some]

theorem entriesAlike_zip (names : List Text) {ds ds' : List Data} (h : List.Forall₂ Data.Alike ds ds') :
    EntriesAlike (names.zip ds) (names.zip ds') := by
  induction names generalizing ds ds' with
  | nil => exact ⟨fun _ => .none, fun e he => absurd he List.not_mem_nil⟩
  | cons n names ih =>
    cases h with
    | nil => exact ⟨fun _ => .none, fun e he => absurd he List.not_mem_nil⟩
    | cons hd hds =>
      obtain ⟨hlookup, hmem⟩ := ih hds
      refine ⟨fun name => ?_, fun e he => ?_⟩
      · rw [List.zip_cons_cons, List.zip_cons_cons, Text.lookup_cons, Text.lookup_cons]
        split_ifs
        · exact .some hd
        · exact hlookup name
      · rcases List.mem_cons.1 he with rfl | hin
        · exact ⟨_, List.mem_cons_self, hd⟩
        · obtain ⟨d, hin', hd'⟩ := hmem e hin
          exact ⟨d, List.mem_cons_of_mem _ hin', hd'⟩

/-- what alike items say is the same, or tables or arrays of what is alike -/
theorem Data.Alike.cases {d d' : Data} (h : d.Alike d') :
    d = d' ∨ (∃ es es', d = .table es ∧ d' = .table es' ∧ EntriesAlike es es') ∨
      ∃ ds ds', d = .array ds ∧ d' = .array ds' ∧ List.Forall₂ Data.Alike ds ds' := by
  obtain ⟨x, y, hxy, hy, rfl, rfl⟩ := h
  cases hxy with
  | value hdata => exact .inl hdata
  | table keys items => exact .inr (.inl ⟨_, _, rfl, rfl, entriesAlike_of_tables (.table keys items) hy⟩)
  | tables hlength heach =>
    refine .inr (.inr ⟨_, _, Item.data_tables _, Item.data_tables _, ?_⟩)
    rw [List.forall₂_map_left_iff, List.forall₂_map_right_iff, List.forall₂_iff_zip]
    refine ⟨hlength, fun {t u} hin => ⟨_, _, heach _ hin, ?_, rfl, rfl⟩⟩
    cases hy with
    | tables hdistinct => exact hdistinct u (List.of_mem_zip hin).2

/-! ## Decoders -/

namespace Decoder

variable {α β : Type} {dec : Decoder α}

/-- what is read is read from data that say alike as well -/
def Respects (dec : Decoder α) : Prop := ∀ d d' : Data, d.Alike d' → ∀ a, dec d = .ok a → dec d' = .ok a

/-- a decoder that reads neither tables nor arrays -/
theorem respects_of_refuses (htable : ∀ es a, dec (.table es) ≠ .ok a) (harray : ∀ ds a, dec (.array ds) ≠ .ok a) :
    dec.Respects := by
  intro d d' h a ha
  rcases h.cases with rfl | ⟨es, _, rfl, -, -⟩ | ⟨ds, _, rfl, -, -⟩
  · exact ha
  · exact absurd ha (htable es a)
  · exact absurd ha (harray ds a)

theorem respects_text : Respects text := respects_of_refuses (fun _ _ h => by cases h) (fun _ _ h => by cases h)

theorem respects_flag : Respects flag := respects_of_refuses (fun _ _ h => by cases h) (fun _ _ h => by cases h)

theorem respects_natural (limit : ℕ) (name : Text) : Respects (natural limit name) :=
  respects_of_refuses (fun _ _ h => by cases h) (fun _ _ h => by cases h)

theorem Respects.map (h : dec.Respects) (g : α → β) : Respects fun d => (dec d).map g := by
  intro d d' hd b hb
  dsimp only at hb ⊢
  cases ha : dec d with
  | error e =>
    rw [ha] at hb
    cases hb
  | ok a =>
    rw [ha] at hb
    rw [h d d' hd a ha]
    exact hb

theorem respects_list (h : dec.Respects) : (list dec).Respects := by
  intro d d' hd as has
  rcases hd.cases with rfl | ⟨es, _, rfl, -, -⟩ | ⟨ds, ds', rfl, rfl, hds⟩
  · exact has
  · cases has
  · change ds.mapM dec = .ok as at has
    change ds'.mapM dec = .ok as
    clear hd
    induction hds generalizing as with
    | nil => exact has
    | @cons d d' ds ds' hd _ ih =>
      rw [List.mapM_cons] at has ⊢
      cases ha : dec d with
      | error e =>
        rw [ha] at has
        cases has
      | ok a =>
        rw [ha] at has
        rw [h d d' hd a ha]
        cases has' : ds.mapM dec with
        | error e =>
          rw [has'] at has
          cases has
        | ok as' =>
          rw [has'] at has
          rw [ih as' has']
          exact has

end Decoder

/-! ## Records -/

namespace Fields

variable {α β ρ : Type} {f : Fields ρ} {d : Decoder α}

/-- the fields accept, and are built from, what says alike -/
structure Respects (f : Fields ρ) : Prop where
  checks : ∀ c ∈ f.checks, ∀ d d' : Data, d.Alike d' → c.2 d = none → c.2 d' = none
  keeps : ∀ get get', (∀ name, Option.Rel Data.Alike (get name) (get' name)) → f.Keeps get get'

theorem respects_value (a : α) : (value a).Respects where
  checks c hc := by cases hc
  keeps _ _ _ := keeps_value a

theorem fault?_respects (h : d.Respects) {data data' : Data} (halike : data.Alike data')
    (hnone : fault? d data = none) : fault? d data' = none := by
  obtain ⟨a, ha⟩ := fault?_eq_none_iff.1 hnone
  exact fault?_eq_none_iff.2 ⟨a, h _ _ halike a ha⟩

theorem rel_of_some {get get' : Text → Option Data} (h : ∀ name, Option.Rel Data.Alike (get name) (get' name))
    (hd : d.Respects) (data : Data) (a : α) (hget : get name = some data) (ha : d data = .ok a) :
    ∃ data', get' name = some data' ∧ d data' = .ok a := by
  have hname := h name
  rw [hget] at hname
  generalize hget' : get' name = found at hname
  cases hname with
  | some halike => exact ⟨_, rfl, hd _ _ halike a ha⟩

theorem respects_required (name : Text) (h : d.Respects) : (required name d).Respects where
  checks c hc data data' halike hnone := by
    rw [List.mem_singleton.1 hc] at hnone ⊢
    exact fault?_respects h halike hnone
  keeps get get' hget := keeps_required (rel_of_some hget h)

theorem respects_optional (name : Text) (usual : α) (h : d.Respects) : (optional name d usual).Respects where
  checks := (respects_required name h).checks
  keeps get get' hget := by
    refine keeps_optional (rel_of_some hget h) fun hnone data' hdata' => ?_
    have hname := hget name
    rw [hnone, hdata'] at hname
    cases hname

theorem Respects.apply {f : Fields (α → β)} {x : Fields α} (hf : f.Respects) (hx : x.Respects) :
    (f.apply x).Respects where
  checks c hc := by
    rcases List.mem_append.1 hc with hin | hin
    · exact hf.checks c hin
    · exact hx.checks c hin
  keeps get get' hget := .apply (hf.keeps get get' hget) (hx.keeps get get' hget)

theorem Respects.ofEntries (h : f.Respects) {absent : Text → DecodeFault} {es es' : List (Text × Data)} {r : ρ}
    (halike : EntriesAlike es es') (hr : f.ofEntries absent es = .ok r) : f.ofEntries absent es' = .ok r := by
  obtain ⟨haccepts, hbuild⟩ := ofEntries_eq_ok_iff.1 hr
  refine ofEntries_eq_ok_iff.2 ⟨fun e he check hcheck => ?_, h.keeps _ _ halike.lookup _ _ hbuild⟩
  obtain ⟨d, hin, hd⟩ := halike.mem e he
  exact h.checks _ (Text.mem_of_lookup hcheck) d e.2 hd (haccepts _ hin check hcheck)

/-- **The order of keys does not matter** to a record -/
theorem Respects.decode (h : f.Respects) (name : Text) : (f.decode name).Respects := by
  intro d d' hd r hr
  rcases hd.cases with rfl | ⟨es, es', rfl, rfl, hes⟩ | ⟨ds, ds', rfl, rfl, hds⟩
  · exact hr
  · exact h.ofEntries hes hr
  · rw [Fields.decode] at hr ⊢
    rw [← hds.length_eq]
    exact h.ofEntries (entriesAlike_zip f.names hds) hr

end Fields

end ResourceServer.Toml
