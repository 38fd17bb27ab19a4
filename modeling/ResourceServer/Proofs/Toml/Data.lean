/-
What tables say after their entries are changed.

The data of entries follows the entries one by one. `Sets` relates data of entries before and after a name is given a
new meaning, whether it had one before or not; `filled` adds those of some defaults that are missing.
-/
import Mathlib.Tactic
import ResourceServer.Toml.Data

namespace ResourceServer.Toml

/-! ## Entries one by one -/

theorem Item.dataOfEntries_eq_map (entries : List (Key × Item)) :
    Item.dataOfEntries entries = entries.map fun e => (e.1.name, e.2.data) := by
  induction entries with
  | nil => rfl
  | cons e entries ih => rw [Item.dataOfEntries, ih, List.map_cons]

theorem Item.data_table (t : Table) : (Item.table t).data = .table (Item.dataOfEntries t.entries) := rfl

theorem Item.data_tables (ts : List Table) :
    (Item.tables ts).data = .array (ts.map fun t => .table (Item.dataOfEntries t.entries)) := by
  rw [Item.data]
  congr 1
  induction ts with
  | nil => rfl
  | cons t ts ih => rw [Item.dataOfTables, ih, List.map_cons]

theorem Item.lookup_dataOfEntries (entries : List (Key × Item)) (name : Text) :
    (Item.dataOfEntries entries).lookup name = (named? entries name).map Item.data := by
  induction entries with
  | nil => rfl
  | cons e entries ih =>
    rw [named?] at ih
    rw [Item.dataOfEntries_eq_map] at ih ⊢
    rw [List.map_cons, Text.lookup_cons, ih, named?, List.find?_cons]
    by_cases h : e.1.name = name
    · rw [if_pos h.symm, beq_iff_eq.2 h]; rfl
    · rw [if_neg (Ne.symm h), beq_eq_false_iff_ne.2 h]

theorem TableOf.lookup_data (t : Table) (name : Text) :
    (Item.dataOfEntries t.entries).lookup name = (t.get? name).map Item.data :=
  Item.lookup_dataOfEntries t.entries name

/-! ## A name with a new meaning -/

/-- the entries are the old ones, but for a name which has a new meaning -/
structure Sets (old : List (Text × Data)) (name : Text) (new : Data) (entries : List (Text × Data)) : Prop where
  lookup : ∀ n, entries.lookup n = if n = name then some new else old.lookup n
  here : ∀ e ∈ entries, e.1 = name → e.2 = new
  there : ∀ e ∈ entries, e.1 ≠ name → e ∈ old

section Sets

variable {entries : List (Text × Data)} {name : Text} {new : Data}

theorem sets_snoc (h : entries.lookup name = none) : Sets entries name new (entries ++ [(name, new)]) where
  lookup n := by
    rw [List.lookup_append, Text.lookup_cons, List.lookup_nil]
    by_cases hn : n = name
    · subst hn
      rw [h, if_pos rfl, Option.none_or]
    · rw [if_neg hn, if_neg hn, Option.or_none]
  here e he hname := by
    rcases List.mem_append.1 he with hin | hin
    · exact absurd hname (Text.lookup_eq_none_iff.1 h e hin)
    · rw [List.mem_singleton.1 hin]
  there e he hname := by
    rcases List.mem_append.1 he with hin | hin
    · exact hin
    · rw [List.mem_singleton.1 hin] at hname
      exact absurd rfl hname

theorem sets_map {old : Data} (h : entries.lookup name = some old) :
    Sets entries name new (entries.map fun e => if e.1 == name then (e.1, new) else e) where
  lookup n := by
    have hall : ∀ es : List (Text × Data), (es.map fun e => if e.1 == name then (e.1, new) else e).lookup n =
        if n = name then (es.lookup n).map (fun _ => new) else es.lookup n := by
      intro es
      induction es with
      | nil => simp
      | cons e es ih =>
        rw [List.map_cons, Text.lookup_cons, Text.lookup_cons, ih]
        by_cases hn : n = name
        · subst hn
          by_cases he : e.1 = n
          · subst he; simp
          · simp [he, Ne.symm he]
        · by_cases he : e.1 = name
          · subst he; simp [hn]
          · simp [he, hn]
    rw [hall]
    by_cases hn : n = name
    · subst hn
      rw [if_pos rfl, if_pos rfl, h]
      rfl
    · rw [if_neg hn, if_neg hn]
  here e he hname := by
    obtain ⟨e₀, -, rfl⟩ := List.mem_map.1 he
    split_ifs at hname ⊢ with h₀
    · rfl
    · exact absurd (beq_iff_eq.2 hname) h₀
  there e he hname := by
    obtain ⟨e₀, hin, rfl⟩ := List.mem_map.1 he
    split_ifs at hname ⊢ with h₀
    · exact absurd (beq_iff_eq.1 h₀) hname
    · exact hin

end Sets

section Tables

variable {t : Table} {name : Text}

theorem sets_append (key : Key) (item : Item) (h : t.get? key.name = none) :
    Sets (Item.dataOfEntries t.entries) key.name item.data (Item.dataOfEntries (t.append key item).entries) := by
  have hnone : (Item.dataOfEntries t.entries).lookup key.name = none := by
    rw [TableOf.lookup_data, h]; rfl
  have hdata : Item.dataOfEntries (t.append key item).entries =
      Item.dataOfEntries t.entries ++ [(key.name, item.data)] := by
    rw [TableOf.append, Item.dataOfEntries_eq_map, Item.dataOfEntries_eq_map, List.map_append]
    rfl
  rw [hdata]
  exact sets_snoc hnone

theorem sets_replace {old : Item} (item : Item) (h : t.get? name = some old) :
    Sets (Item.dataOfEntries t.entries) name item.data (Item.dataOfEntries (t.replace name item).entries) := by
  have hsome : (Item.dataOfEntries t.entries).lookup name = some old.data := by
    rw [TableOf.lookup_data, h]; rfl
  have hdata : Item.dataOfEntries (t.replace name item).entries =
      (Item.dataOfEntries t.entries).map fun e => if e.1 == name then (e.1, item.data) else e := by
    rw [TableOf.replace, replaceEntry, Item.dataOfEntries_eq_map, Item.dataOfEntries_eq_map, List.map_map, List.map_map]
    refine List.map_congr_left fun e _ => ?_
    simp only [Function.comp_apply]
    split_ifs <;> rfl
  rw [hdata]
  exact sets_map hsome

end Tables

/-! ## Missing entries added -/

/-- the entries with the defaults they lack behind them -/
def filled (defaults entries : List (Text × Data)) : List (Text × Data) :=
  entries ++ defaults.filter fun e => (entries.lookup e.1).isNone

theorem lookup_filled (defaults entries : List (Text × Data)) (name : Text) :
    (filled defaults entries).lookup name = (entries.lookup name).or (defaults.lookup name) := by
  rw [filled, List.lookup_append]
  cases hname : entries.lookup name with
  | some d => rfl
  | none =>
    rw [Option.none_or, Option.none_or]
    induction defaults with
    | nil => rfl
    | cons e defaults ih =>
      rw [List.filter_cons, Text.lookup_cons]
      by_cases he : name = e.1
      · subst he
        simp [hname, Text.lookup_cons]
      · rw [if_neg he, ← ih]
        split_ifs
        · rw [Text.lookup_cons, if_neg he]
        · rfl

theorem mem_filled {defaults entries : List (Text × Data)} {e : Text × Data} (h : e ∈ filled defaults entries) :
    e ∈ entries ∨ e ∈ defaults := by
  rcases List.mem_append.1 h with hin | hin
  · exact .inl hin
  · exact .inr (List.mem_filter.1 hin).1

end ResourceServer.Toml
