/-
Key paths of a document, and keys that are added to it.

A path goes from a table to what it keeps under a key, and from the tables of one name to one of them. A value ends it:
the keys of a table in braces belong to the value. `Item.Adds` says that an item is another one with some keys more.
What was there is what it was, and a table has its own keys first and behind them the added ones, in their order.
- `Item.Adds.trans`: keys may be added one after the other.
- `Item.adds_entries`: entries behind those of a table, none of them with keys of its own.
- `Item.Adds.replace`, `Item.adds_tables`: keys added to a part of a table, and to each of several tables.
- `Item.Adds.reached_iff`: the paths that are there afterwards.
-/
import ResourceServer.Proofs.Toml.Tables

namespace ResourceServer.Toml

/-- a step from an item to one of its parts -/
inductive KeyStep where
  /-- to what a table keeps under a name -/
  | key (name : Text)
  /-- to one of several tables -/
  | index (i : ℕ)
  deriving DecidableEq, Repr

/-- a way from an item to one of its parts -/
abbrev KeyPath := List KeyStep

/-- what a path leads to -/
def Item.at? : KeyPath → Item → Option Item
  | [], x => some x
  | .key name :: rest, .table t => (t.get? name).bind fun x => Item.at? rest x
  | .index i :: rest, .tables ts => ts[i]?.bind fun t => Item.at? rest (.table t)
  | _ :: _, _ => none

/-- the keys of the table that a path leads to; none where it leads to no table -/
def Item.keysAt (path : KeyPath) (x : Item) : List Key :=
  match x.at? path with
  | some (.table t) => t.entries.map (·.1)
  | _ => []

/-- the item is still the same value, a table of the same making, or as many tables -/
inductive Item.KeptBy : Item → Item → Prop
  | value (v : Value) : KeptBy (.value v) (.value v)
  | table {t u : Table} (same : u = { t with entries := u.entries }) : KeptBy (.table t) (.table u)
  | tables {ts : List Table} (length : us.length = ts.length) : KeptBy (.tables ts) (.tables us)

/-- the place of a key: the way to its table, and its name there -/
structure KeyPlace where
  table : KeyPath
  name : Text
  deriving DecidableEq, Repr

/-- the way to what is kept there -/
def KeyPlace.path (k : KeyPlace) : KeyPath := k.table ++ [.key k.name]

/-- the place seen from one step before -/
def KeyPlace.below (step : KeyStep) (k : KeyPlace) : KeyPlace := ⟨step :: k.table, k.name⟩

/-- the names of those places that are in the table at the path -/
def namesAt (places : List KeyPlace) (path : KeyPath) : List Text := (places.filter (·.table = path)).map (·.name)

/-- the second item is the first one with keys added at the places -/
structure Item.Adds (added : List KeyPlace) (x y : Item) : Prop where
  keeps : ∀ path a, x.at? path = some a → ∃ b, y.at? path = some b ∧ a.KeptBy b
  keys : ∀ path, y.keysAt path = x.keysAt path ++ (namesAt added path).map Key.bare
  reaches : ∀ path b, y.at? path = some b → (∃ a, x.at? path = some a) ∨ ∃ k ∈ added, path = k.path

variable {x y z : Item} {t u : Table} {ts : List Table} {name n : Text} {path rest : KeyPath} {step : KeyStep}
  {added more : List KeyPlace}

/-! ## Ways -/

theorem Item.at?_nil (x : Item) : x.at? [] = some x := by
  cases x <;> rfl

theorem Item.at?_key (t : Table) (name : Text) (rest : KeyPath) :
    (Item.table t).at? (.key name :: rest) = (t.get? name).bind (Item.at? rest) := rfl

theorem Item.at?_key_of_get? (h : t.get? name = some x) (rest : KeyPath) :
    (Item.table t).at? (.key name :: rest) = x.at? rest := by
  rw [Item.at?_key, h, Option.bind_some]

theorem Item.at?_key_of_none (h : t.get? name = none) (rest : KeyPath) :
    (Item.table t).at? (.key name :: rest) = none := by
  rw [Item.at?_key, h, Option.bind_none]

theorem Item.at?_single (t : Table) (name : Text) : (Item.table t).at? [.key name] = t.get? name := by
  cases h : t.get? name with
  | none => exact Item.at?_key_of_none h []
  | some x => exact (Item.at?_key_of_get? h []).trans (Item.at?_nil x)

theorem Item.at?_index (ts : List Table) (i : ℕ) (rest : KeyPath) :
    (Item.tables ts).at? (.index i :: rest) = ts[i]?.bind fun t => (Item.table t).at? rest := rfl

theorem Item.at?_index_of_lt {i : ℕ} (h : i < ts.length) (rest : KeyPath) :
    (Item.tables ts).at? (.index i :: rest) = (Item.table ts[i]).at? rest := by
  rw [Item.at?_index, List.getElem?_eq_getElem h, Option.bind_some]

theorem Item.at?_index_of_le {i : ℕ} (h : ts.length ≤ i) (rest : KeyPath) :
    (Item.tables ts).at? (.index i :: rest) = none := by
  rw [Item.at?_index, List.getElem?_eq_none h, Option.bind_none]

theorem Item.at?_append (path rest : KeyPath) (x : Item) :
    x.at? (path ++ rest) = (x.at? path).bind (Item.at? rest) := by
  induction path generalizing x with
  | nil => rw [List.nil_append, Item.at?_nil, Option.bind_some]
  | cons step path ih =>
    cases step with
    | key name =>
      cases x with
      | table t =>
        rw [List.cons_append, Item.at?_key, Item.at?_key, Option.bind_assoc]
        exact Option.bind_congr fun a _ => ih a
      | value v => rfl
      | tables ts => rfl
    | index i =>
      cases x with
      | tables ts =>
        rw [List.cons_append, Item.at?_index, Item.at?_index, Option.bind_assoc]
        exact Option.bind_congr fun t _ => ih (.table t)
      | value v => rfl
      | table t => rfl

/-- where a path leads from a table, it is empty or starts with one of its keys -/
theorem Item.eq_nil_or_key_of_at?_table (h : (Item.table t).at? path = some x) :
    path = [] ∨ ∃ name y rest, path = .key name :: rest ∧ t.get? name = some y ∧ y.at? rest = some x := by
  cases path with
  | nil => exact .inl rfl
  | cons step rest =>
    cases step with
    | index i => cases h
    | key name =>
      obtain ⟨y, hy, hrest⟩ := Option.bind_eq_some_iff.1 h
      exact .inr ⟨name, y, rest, rfl, hy, hrest⟩

/-- where a path leads from several tables, it is empty or starts with the number of one of them -/
theorem Item.eq_nil_or_index_of_at?_tables (h : (Item.tables ts).at? path = some x) :
    path = [] ∨ ∃ i rest, path = .index i :: rest ∧ i < ts.length := by
  cases path with
  | nil => exact .inl rfl
  | cons step rest =>
    cases step with
    | key name => cases h
    | index i =>
      obtain ⟨m, hm, -⟩ := Option.bind_eq_some_iff.1 h
      exact .inr ⟨i, rest, rfl, (List.getElem?_eq_some_iff.1 hm).1⟩

/-- tables that keep the same under a name are the same from there on -/
theorem Item.at?_key_congr (h : u.get? name = t.get? name) (rest : KeyPath) :
    (Item.table u).at? (.key name :: rest) = (Item.table t).at? (.key name :: rest) := by
  rw [Item.at?_key, Item.at?_key, h]

theorem Item.keysAt_eq (h : y.at? path = x.at? rest) : y.keysAt path = x.keysAt rest := by
  rw [Item.keysAt, Item.keysAt, h]

theorem Item.keysAt_of_none (h : x.at? path = none) : x.keysAt path = [] := by
  rw [Item.keysAt, h]

theorem Item.KeptBy.refl (x : Item) : x.KeptBy x := by
  cases x with
  | value v => exact .value v
  | table t => exact .table rfl
  | tables ts => exact .tables rfl

theorem Item.KeptBy.trans (h : x.KeptBy y) (h' : y.KeptBy z) : x.KeptBy z := by
  cases h with
  | value v => exact h'
  | table same =>
    cases h' with
    | table same' =>
      rw [same] at same'
      exact .table same'
  | tables length =>
    cases h' with
    | tables length' => exact .tables (length'.trans length)

/-! ## Places -/

theorem namesAt_append (places more : List KeyPlace) (path : KeyPath) :
    namesAt (places ++ more) path = namesAt places path ++ namesAt more path := by
  rw [namesAt, List.filter_append, List.map_append]
  rfl

theorem namesAt_eq_nil (h : ∀ k ∈ added, k.table ≠ path) : namesAt added path = [] := by
  rw [namesAt, List.filter_eq_nil_iff.2 fun k hk => by simpa using h k hk, List.map_nil]

/-- the names of entries are in their own table -/
theorem namesAt_here (es : List (Text × Item)) : namesAt (es.map fun e => ⟨[], e.1⟩) [] = es.map (·.1) := by
  rw [namesAt, List.filter_map, List.map_map, List.filter_eq_self.2]
  · rfl
  · intro e _
    simp

theorem namesAt_further (es : List (Text × Item)) (step : KeyStep) (rest : KeyPath) :
    namesAt (es.map fun e => ⟨[], e.1⟩) (step :: rest) = [] := by
  refine namesAt_eq_nil fun k hk => ?_
  obtain ⟨e, -, rfl⟩ := List.mem_map.1 hk
  exact (List.cons_ne_nil step rest).symm

theorem namesAt_below (added : List KeyPlace) (step : KeyStep) (path : KeyPath) :
    namesAt (added.map (·.below step)) (step :: path) = namesAt added path := by
  rw [namesAt, namesAt, List.filter_map, List.map_map]
  congr 1
  refine List.filter_congr fun k _ => ?_
  simp [KeyPlace.below]

theorem namesAt_below_of_ne (h : ∀ rest, path ≠ step :: rest) : namesAt (added.map (·.below step)) path = [] := by
  refine namesAt_eq_nil fun k hk => ?_
  obtain ⟨k, -, rfl⟩ := List.mem_map.1 hk
  exact (h k.table).symm

/-- places in several tables, those of one table after those of the other -/
theorem namesAt_index (places : ℕ → List KeyPlace) (n i : ℕ) (rest : KeyPath) :
    namesAt ((List.range n).flatMap fun j => (places j).map (·.below (.index j))) (.index i :: rest) =
      if i < n then namesAt (places i) rest else [] := by
  induction n with
  | zero => rfl
  | succ n ih =>
    rw [List.range_succ, List.flatMap_append, namesAt_append, ih, List.flatMap_singleton]
    rcases lt_trichotomy i n with hlt | rfl | hgt
    · rw [if_pos hlt, if_pos (by omega), namesAt_below_of_ne (by simp [hlt.ne]), List.append_nil]
    · rw [if_neg (lt_irrefl i), if_pos (Nat.lt_succ_self i), namesAt_below, List.nil_append]
    · rw [if_neg (by omega), if_neg (by omega), namesAt_below_of_ne (by simp [hgt.ne']), List.append_nil]

theorem namesAt_index_of_ne (places : ℕ → List KeyPlace) (n : ℕ) (h : ∀ i rest, path ≠ .index i :: rest) :
    namesAt ((List.range n).flatMap fun j => (places j).map (·.below (.index j))) path = [] := by
  refine namesAt_eq_nil fun k hk => ?_
  obtain ⟨j, -, hj⟩ := List.mem_flatMap.1 hk
  obtain ⟨k, -, rfl⟩ := List.mem_map.1 hj
  exact (h j k.table).symm

/-! ## Keys that are added -/

namespace Item

theorem Adds.refl (x : Item) : x.Adds [] x where
  keeps _ a ha := ⟨a, ha, .refl a⟩
  keys path := (List.append_nil (x.keysAt path)).symm
  reaches _ b hb := .inl ⟨b, hb⟩

theorem Adds.trans (h : x.Adds added y) (h' : y.Adds more z) : x.Adds (added ++ more) z where
  keeps path a ha := by
    obtain ⟨b, hb, hab⟩ := h.keeps path a ha
    obtain ⟨c, hc, hbc⟩ := h'.keeps path b hb
    exact ⟨c, hc, hab.trans hbc⟩
  keys path := by rw [h'.keys, h.keys, namesAt_append, List.map_append, List.append_assoc]
  reaches path c hc := by
    rcases h'.reaches path c hc with ⟨b, hb⟩ | ⟨k, hk, rfl⟩
    · rcases h.reaches path b hb with hx | ⟨k, hk, rfl⟩
      · exact .inl hx
      · exact .inr ⟨k, List.mem_append_left _ hk, rfl⟩
    · exact .inr ⟨k, List.mem_append_right _ hk, rfl⟩

/-- an item that no path goes on from, and that has no keys -/
structure Childless (x : Item) : Prop where
  parts : ∀ step rest, x.at? (step :: rest) = none
  keys : x.keysAt [] = []

theorem childless_value (v : Value) : (Item.value v).Childless := ⟨fun step _ => by cases step <;> rfl, rfl⟩

theorem childless_fresh (dotted : Bool) : (Item.table (TableOf.fresh dotted)).Childless :=
  ⟨fun step _ => by cases step <;> rfl, rfl⟩

theorem Childless.keysAt (h : x.Childless) (path : KeyPath) : x.keysAt path = [] := by
  cases path with
  | nil => exact h.keys
  | cons step rest => exact keysAt_of_none (h.parts step rest)

/-- entries behind those of a table -/
theorem adds_entries (t : Table) (es : List (Text × Item)) (hes : ∀ e ∈ es, e.2.Childless) :
    (Item.table t).Adds (es.map fun e => ⟨[], e.1⟩)
      (.table { t with entries := t.entries ++ es.map fun e => (Key.bare e.1, e.2) }) := by
  set u : Table := { t with entries := t.entries ++ es.map fun e => (Key.bare e.1, e.2) } with hu
  -- a look-up changes only where there was nothing, and then it finds one of the new entries
  have hold : ∀ {n x}, t.get? n = some x → u.get? n = some x := by
    intro n x hx
    rw [hu, TableOf.get?_extended, hx, Option.some_or]
  have hnew : ∀ {n x}, t.get? n = none → u.get? n = some x → (n, x) ∈ es := by
    intro n x hnone hx
    rw [hu, TableOf.get?_extended, hnone, Option.none_or] at hx
    obtain ⟨key, hin, rfl⟩ := TableOf.mem_of_get? (t := { t with entries := es.map fun e => (Key.bare e.1, e.2) }) hx
    obtain ⟨e, he, heq⟩ := List.mem_map.1 hin
    cases heq
    exact he
  refine ⟨fun path a ha => ?_, fun path => ?_, fun path b hb => ?_⟩
  · rcases eq_nil_or_key_of_at?_table ha with rfl | ⟨n, x, rest, rfl, hx, hrest⟩
    · cases ha
      exact ⟨.table u, rfl, .table rfl⟩
    · exact ⟨a, by rw [at?_key_of_get? (hold hx), hrest], .refl a⟩
  · cases path with
    | nil =>
      rw [namesAt_here, List.map_map]
      change u.entries.map (·.1) = t.entries.map (·.1) ++ _
      rw [hu, List.map_append, List.map_map]
      rfl
    | cons step rest =>
      rw [namesAt_further, List.map_nil, List.append_nil]
      cases step with
      | index i => rfl
      | key n =>
        cases hx : t.get? n with
        | some x => exact keysAt_eq (at?_key_congr (by rw [hold hx, hx]) rest)
        | none =>
          rw [keysAt_of_none (at?_key_of_none hx rest)]
          cases hy : u.get? n with
          | none => exact keysAt_of_none (at?_key_of_none hy rest)
          | some y => rw [keysAt_eq (at?_key_of_get? hy rest), (hes _ (hnew hx hy)).keysAt]
  · rcases eq_nil_or_key_of_at?_table hb with rfl | ⟨n, y, rest, rfl, hy, hrest⟩
    · exact .inl ⟨_, rfl⟩
    · cases hx : t.get? n with
      | some x =>
        rw [hold hx, Option.some.injEq] at hy
        exact .inl ⟨b, by rw [at?_key_of_get? hx, hy, hrest]⟩
      | none =>
        have hin := hnew hx hy
        cases rest with
        | nil => exact .inr ⟨⟨[], n⟩, List.mem_map.2 ⟨_, hin, rfl⟩, rfl⟩
        | cons step rest =>
          rw [(hes _ hin).parts] at hrest
          cases hrest

/-- keys added to what a table keeps under a name -/
theorem Adds.replace (hname : t.get? name = some x) (h : x.Adds added y) :
    (Item.table t).Adds (added.map (·.below (.key name))) (.table (t.replace name y)) := by
  -- the paths through the name go on in the new item, the others as before
  have hhere : ∀ rest, (Item.table (t.replace name y)).at? (.key name :: rest) = y.at? rest :=
    at?_key_of_get? (TableOf.get?_replace_self hname y)
  have hthere : ∀ {n}, n ≠ name → ∀ rest,
      (Item.table (t.replace name y)).at? (.key n :: rest) = (Item.table t).at? (.key n :: rest) :=
    fun hn => at?_key_congr (TableOf.get?_replace_of_ne hn y)
  refine ⟨fun path a ha => ?_, fun path => ?_, fun path b hb => ?_⟩
  · rcases eq_nil_or_key_of_at?_table ha with rfl | ⟨n, x', rest, rfl, hx', hrest⟩
    · cases ha
      exact ⟨_, rfl, .table rfl⟩
    · by_cases hn : n = name
      · subst hn
        rw [hname, Option.some.injEq] at hx'
        rw [hhere]
        exact h.keeps rest a (by rw [hx', hrest])
      · exact ⟨a, by rw [hthere hn, ha], .refl a⟩
  · cases path with
    | nil =>
      rw [namesAt_below_of_ne (by simp), List.map_nil, List.append_nil]
      exact TableOf.keys_replace t name y
    | cons step rest =>
      cases step with
      | index i =>
        rw [namesAt_below_of_ne (by simp)]
        rfl
      | key n =>
        by_cases hn : n = name
        · subst hn
          rw [namesAt_below, keysAt_eq (at?_key_of_get? hname rest), keysAt_eq (hhere rest), h.keys]
        · rw [namesAt_below_of_ne (by simp [hn]), keysAt_eq (hthere hn rest), List.map_nil, List.append_nil]
  · rcases eq_nil_or_key_of_at?_table hb with rfl | ⟨n, y', rest, rfl, -, -⟩
    · exact .inl ⟨_, rfl⟩
    · by_cases hn : n = name
      · subst hn
        rw [hhere] at hb
        rw [at?_key_of_get? hname]
        exact (h.reaches rest b hb).imp_right fun ⟨k, hk, hrest⟩ =>
          ⟨_, List.mem_map_of_mem hk, congrArg (KeyStep.key n :: ·) hrest⟩
      · exact .inl ⟨b, by rw [← hthere hn, hb]⟩

/-- keys added to each of several tables -/
theorem adds_tables {places : ℕ → List KeyPlace} {f : Table → Table}
    (h : ∀ i (hi : i < ts.length), (Item.table ts[i]).Adds (places i) (.table (f ts[i]))) :
    (Item.tables ts).Adds ((List.range ts.length).flatMap fun i => (places i).map (·.below (.index i)))
      (.tables (ts.map f)) := by
  have hafter : ∀ {i} (hi : i < ts.length) rest,
      (Item.tables (ts.map f)).at? (.index i :: rest) = (Item.table (f ts[i])).at? rest := by
    intro i hi rest
    rw [at?_index_of_lt (by rwa [List.length_map]), List.getElem_map]
  refine ⟨fun path a ha => ?_, fun path => ?_, fun path b hb => ?_⟩
  · rcases eq_nil_or_index_of_at?_tables ha with rfl | ⟨i, rest, rfl, hi⟩
    · cases ha
      exact ⟨_, rfl, .tables (List.length_map f)⟩
    · rw [at?_index_of_lt hi] at ha
      rw [hafter hi]
      exact (h i hi).keeps rest a ha
  · cases path with
    | nil =>
      rw [namesAt_index_of_ne places _ (by simp)]
      rfl
    | cons step rest =>
      cases step with
      | key n =>
        rw [namesAt_index_of_ne places _ (by simp)]
        rfl
      | index i =>
        rw [namesAt_index]
        split_ifs with hi
        · rw [keysAt_eq (at?_index_of_lt hi rest), keysAt_eq (hafter hi rest), (h i hi).keys]
        · have hlength : (ts.map f).length ≤ i := by rw [List.length_map]; omega
          rw [keysAt_of_none (at?_index_of_le hlength rest), keysAt_of_none (at?_index_of_le (by omega) rest)]
          rfl
  · rcases eq_nil_or_index_of_at?_tables hb with rfl | ⟨i, rest, rfl, hi⟩
    · exact .inl ⟨_, rfl⟩
    · rw [List.length_map] at hi
      rw [hafter hi] at hb
      rw [at?_index_of_lt hi]
      exact ((h i hi).reaches rest b hb).imp_right fun ⟨k, hk, hpath⟩ =>
        ⟨_, List.mem_flatMap.2 ⟨i, List.mem_range.2 hi, List.mem_map_of_mem hk⟩,
          congrArg (KeyStep.index i :: ·) hpath⟩

/-- where a key is added, there is something -/
theorem Adds.exists_at? (h : x.Adds added y) {k : KeyPlace} (hk : k ∈ added) : ∃ b, y.at? k.path = some b := by
  have hkey : Key.bare k.name ∈ y.keysAt k.table := by
    rw [h.keys]
    refine List.mem_append_right _ (List.mem_map_of_mem (List.mem_map.2 ⟨k, ?_, rfl⟩))
    exact List.mem_filter.2 ⟨hk, decide_eq_true rfl⟩
  rw [keysAt] at hkey
  split at hkey
  · rename_i t ht
    obtain ⟨e, he, hname⟩ := List.mem_map.1 hkey
    obtain ⟨b, hb⟩ := TableOf.exists_get?_of_mem he
    rw [hname] at hb
    refine ⟨b, ?_⟩
    rw [KeyPlace.path, at?_append, ht, Option.bind_some, at?_single]
    exact hb
  · cases hkey

/-- **What is there afterwards** is what was there, and what was added -/
theorem Adds.reached_iff (h : x.Adds added y) (path : KeyPath) :
    (∃ b, y.at? path = some b) ↔ (∃ a, x.at? path = some a) ∨ ∃ k ∈ added, path = k.path := by
  constructor
  · rintro ⟨b, hb⟩
    exact h.reaches path b hb
  · rintro (⟨a, ha⟩ | ⟨k, hk, rfl⟩)
    · obtain ⟨b, hb, -⟩ := h.keeps path a ha
      exact ⟨b, hb⟩
    · exact h.exists_at? hk

end Item

end ResourceServer.Toml
