/-
A parsed document binds each key once.

The parser refuses a key or a table that is defined twice. That is an invariant of its builder (`Builder.Distinct`):
its root and its open table bind each key once while the lines are read.
- `Item.Distinct.append`, `Item.Distinct.replace`, `Item.Distinct.drop`: the ways in which a table changes.
- `changeAt?_distinct`: a change somewhere below a table.
- `finish?_distinct`, `openTable?_distinct`, `openArray?_distinct`, `keyValue?_distinct`: what one line does.
- `lines?_distinct`, `Document.parse?_distinct`: what all lines do.
-/
import ResourceServer.Proofs.Toml.Alike

namespace ResourceServer.Toml

variable {t t' root : Table} {name : Text} {key : Key} {item : Item}

/-! ## Tables that change -/

theorem Item.distinct_of_entries (h : (Item.table t).Distinct) (hentries : t'.entries = t.entries) :
    (Item.table t').Distinct := by
  refine .table ?_ ?_
  · rw [hentries]
    exact h.keys
  · rw [hentries]
    exact h.items

theorem Item.distinct_nil (h : t.entries = []) : (Item.table t).Distinct := by
  refine .table ?_ fun e he => ?_
  · rw [h]
    exact List.nodup_nil
  · rw [h] at he
    cases he

theorem Item.Distinct.append (h : (Item.table t).Distinct) (hnone : t.get? key.name = none) (hitem : item.Distinct) :
    (Item.table (t.append key item)).Distinct := by
  refine .table ?_ fun e he => ?_
  · rw [TableOf.append, List.map_append, List.map_singleton]
    refine List.nodup_append.2 ⟨h.keys, List.nodup_singleton _, fun n hn m hm hsame => ?_⟩
    obtain ⟨e, he, rfl⟩ := List.mem_map.1 hn
    rw [List.mem_singleton.1 hm] at hsame
    rw [← hsame, TableOf.get?_of_mem h.keys he] at hnone
    cases hnone
  · rcases List.mem_append.1 he with hin | hin
    · exact h.items e hin
    · rw [List.mem_singleton.1 hin]
      exact hitem

theorem Item.Distinct.replace (h : (Item.table t).Distinct) (hitem : item.Distinct) :
    (Item.table (t.replace name item)).Distinct := by
  have hkeys := congrArg (List.map Key.name) (TableOf.keys_replace t name item)
  rw [List.map_map, List.map_map] at hkeys
  refine .table ?_ fun e he => ?_
  · exact hkeys ▸ h.keys
  · obtain ⟨e, hin, rfl⟩ := List.mem_map.1 he
    split_ifs
    · exact hitem
    · exact h.items e hin

theorem Item.Distinct.drop (h : (Item.table t).Distinct) (name : Text) :
    (Item.table { t with entries := dropEntry t.entries name }).Distinct :=
  .table (h.keys.sublist (List.filter_sublist.map _)) fun e he => h.items e (List.mem_filter.1 he).1

theorem Item.Distinct.of_mem {ts : List Table} (h : (Item.tables ts).Distinct) (ht : t ∈ ts) :
    (Item.table t).Distinct := by
  cases h with
  | tables each => exact each t ht

theorem Item.Distinct.concat {ts : List Table} (h : ∀ t ∈ ts, (Item.table t).Distinct) (ht : (Item.table t).Distinct) :
    (Item.tables (ts ++ [t])).Distinct := by
  refine .tables fun u hu => ?_
  rcases List.mem_append.1 hu with hin | hin
  · exact h u hin
  · rw [List.mem_singleton.1 hin]
    exact ht

/-! ## Changes below a table -/

/-- a change that keeps keys distinct -/
def KeepsDistinct (change : Table → Option Table) : Prop :=
  ∀ t t', (Item.table t).Distinct → change t = some t' → (Item.table t').Distinct

theorem changeAt?_distinct {dotted : Bool} {change : Table → Option Table} (hchange : KeepsDistinct change)
    (path : List Key) : KeepsDistinct (Table.changeAt? dotted change path) := by
  induction path with
  | nil => exact hchange
  | cons key more ih =>
    intro t t' ht h
    rw [Table.changeAt?] at h
    split at h
    · rename_i hnone
      obtain ⟨child, hchild, rfl⟩ := Option.map_eq_some_iff.1 h
      exact ht.append hnone (ih _ _ (Item.distinct_nil rfl) hchild)
    · cases h
    · rename_i ts hts
      split at h
      · cases h
      · rename_i last hlast
        obtain ⟨child, hchild, rfl⟩ := Option.map_eq_some_iff.1 h
        have hdistinct := ht.of_get? hts
        have hlast' := hdistinct.of_mem (List.mem_of_getLast? hlast)
        exact ht.replace (.concat (fun u hu => hdistinct.of_mem (List.mem_of_mem_dropLast hu)) (ih _ _ hlast' hchild))
    · rename_i child hchild
      split_ifs at h
      obtain ⟨child', hchild', rfl⟩ := Option.map_eq_some_iff.1 h
      exact ht.replace (ih _ _ (ht.of_get? hchild) hchild')

/-- a key is put only where it is not taken -/
theorem put?_distinct (path : List Key) (key : Key) (v : Value) : KeepsDistinct (Table.put? path key v) := by
  refine changeAt?_distinct (fun t t' ht h => ?_) path
  split_ifs at h with hplace
  cases h
  have hfree : t.has key.name = false := by simpa using (Bool.or_eq_false_iff.1 (Bool.eq_false_iff.2 hplace)).2
  exact ht.append (by simpa [TableOf.has] using hfree) (.value v)

namespace Builder

/-! ## One line -/

variable {b b' : Builder} {path : List Key} {after rest : Text}

/-- neither the tables so far nor the open one bind a key twice -/
structure Distinct (b : Builder) : Prop where
  root : (Item.table b.root).Distinct
  current : (Item.table b.current).Distinct

theorem distinct_start : Builder.start.Distinct := ⟨Item.distinct_nil rfl, Item.distinct_nil rfl⟩

theorem finish?_distinct (hb : b.Distinct) (h : b.finish? = some root) : (Item.table root).Distinct := by
  rw [finish?] at h
  split at h
  · cases h
    exact hb.current
  · rename_i key _
    refine changeAt?_distinct (fun t t' ht h => ?_) _ _ _ hb.root h
    split_ifs at h with hlist
    · split at h
      · rename_i ts hts
        cases h
        exact ht.replace (.concat (fun u hu => (ht.of_get? hts).of_mem hu) hb.current)
      · cases h
    · split at h
      · rename_i hnone
        cases h
        exact ht.append hnone hb.current
      · split_ifs at h
        cases h
        exact ht.replace hb.current
      · cases h

theorem lookupAt_distinct (ht : (Item.table t).Distinct) (h : openTable?.lookupAt path t = some t') :
    (Item.table t').Distinct := by
  induction path generalizing t with
  | nil =>
    cases h
    exact ht
  | cons key more ih =>
    rw [openTable?.lookupAt] at h
    split at h
    · rename_i child hchild
      exact ih (ht.of_get? hchild) h
    · rename_i ts hts
      obtain ⟨last, hlast, h⟩ := Option.bind_eq_some_iff.1 h
      exact ih ((ht.of_get? hts).of_mem (List.mem_of_getLast? hlast)) h
    · cases h

theorem openTable?_distinct (hroot : (Item.table root).Distinct) (h : b.openTable? root path after = some b') :
    b'.Distinct := by
  rw [openTable?] at h
  split at h
  · cases h
  · rename_i key _
    dsimp only at h
    split at h
    · cases h
    · rename_i root' hroot'
      have hdistinct := changeAt?_distinct (fun t t' ht h => by cases h; exact ht) _ _ _ hroot hroot'
      split at h
      · cases h
        exact ⟨hdistinct, Item.distinct_nil rfl⟩
      · rename_i t hold
        split_ifs at h
        obtain ⟨parent, hparent, hitem⟩ := Option.bind_eq_some_iff.1 hold
        obtain ⟨root'', hroot'', rfl⟩ := Option.map_eq_some_iff.1 h
        have ht : (Item.table t).Distinct := (lookupAt_distinct hdistinct hparent).of_get? hitem
        refine ⟨?_, Item.distinct_of_entries ht rfl⟩
        refine changeAt?_distinct (fun u u' hu h => ?_) _ _ _ hdistinct hroot''
        cases h
        exact hu.drop key.name
      · cases h

theorem openArray?_distinct (hroot : (Item.table root).Distinct) (h : b.openArray? root path after = some b') :
    b'.Distinct := by
  rw [openArray?] at h
  split at h
  · cases h
  · rename_i key _
    obtain ⟨root', hroot', rfl⟩ := Option.map_eq_some_iff.1 h
    refine ⟨?_, Item.distinct_nil rfl⟩
    refine changeAt?_distinct (fun t t' ht h => ?_) _ _ _ hroot hroot'
    split at h
    · rename_i hnone
      cases h
      exact ht.append hnone (.tables fun u hu => absurd hu List.not_mem_nil)
    · cases h
      exact ht
    · cases h

theorem header?_distinct {inArray : Bool} (hb : b.Distinct) (h : b.header? inArray after = some (b', rest)) :
    b'.Distinct := by
  rw [header?] at h
  split at h
  · cases h
  · dsimp only at h
    split at h
    · cases h
    · split at h
      · rename_i root _ hroot
        obtain ⟨b'', hb'', heq⟩ := Option.map_eq_some_iff.1 h
        cases heq
        have hdistinct := finish?_distinct hb hroot
        split_ifs at hb''
        · exact openArray?_distinct hdistinct hb''
        · exact openTable?_distinct hdistinct hb''
      · cases h

theorem keyValue?_distinct (hb : b.Distinct) (h : b.keyValue? after = some (b', rest)) : b'.Distinct := by
  rw [keyValue?] at h
  split at h
  · cases h
  · split at h
    · dsimp only at h
      split at h
      · cases h
      · split at h
        · cases h
        · obtain ⟨current, hcurrent, heq⟩ := Option.map_eq_some_iff.1 h
          cases heq
          exact ⟨hb.root, put?_distinct _ _ _ _ _ hb.current hcurrent⟩
    · cases h

/-! ## All lines -/

/-- blanks and comments that are kept for the next line -/
theorem Distinct.pend (hb : b.Distinct) (pending : Text) : Distinct { b with pending } := ⟨hb.root, hb.current⟩

theorem lines?_distinct {n : ℕ} {t : Text} (hb : b.Distinct) (h : lines? n b t = some b') : b'.Distinct := by
  induction n generalizing b t with
  | zero => cases h
  | succ n ih =>
    rw [lines?] at h
    dsimp only at h
    split at h
    · cases h
      exact hb.pend _
    · obtain ⟨⟨_, next⟩, -, h⟩ := Option.bind_eq_some_iff.1 h
      exact ih (hb.pend _) h
    · obtain ⟨⟨b'', next⟩, hb'', h⟩ := Option.bind_eq_some_iff.1 h
      exact ih (header?_distinct (hb.pend _) hb'') h
    · obtain ⟨⟨b'', next⟩, hb'', h⟩ := Option.bind_eq_some_iff.1 h
      exact ih (header?_distinct (hb.pend _) hb'') h
    · split at h
      · exact ih (hb.pend _) h
      · obtain ⟨⟨b'', next⟩, hb'', h⟩ := Option.bind_eq_some_iff.1 h
        exact ih (keyValue?_distinct (hb.pend _) hb'') h

end Builder

/-- **No key twice.** A document that is parsed binds each key of each table once -/
theorem Document.parse?_distinct {t : Text} {d : Document} (h : Document.parse? t = some d) :
    (Item.table d.root).Distinct := by
  obtain ⟨b, hb, hd⟩ := Option.bind_eq_some_iff.1 h
  obtain ⟨root, hroot, rfl⟩ := Option.map_eq_some_iff.1 hd
  exact Builder.finish?_distinct (Builder.lines?_distinct Builder.distinct_start hb) hroot

end ResourceServer.Toml
