/-
Bindings as tables: what binding many pairs does, and when bindings are the same.

- `ext_of_mem_iff`: bindings are given by the pairs that they hold.
- `get?_insertAll`: of the pairs that are bound the last one with a text counts.
- `BoundLast`, `mem_insertAll_empty_iff_boundLast`: so bindings made of pairs hold the last pair of each text.
- `mem_insertAll_empty_iff`: they hold all pairs that agree on equal texts, whatever their order.
- `insertAll_toList`: the pairs of bindings, bound one after the other, make these bindings.
-/
import Mathlib.Tactic
import ResourceServer.Routing.Bindings

namespace ResourceServer.Routing.Bindings

variable {α β : Type} {b : Bindings α} {pairs : List (Text × α)} {k : Text} {v : α}

/-! ## What is held -/

theorem nodup_toList (b : Bindings α) : b.toList.Nodup := .of_map _ b.nodup_keys

/-- bindings are given by the pairs that they hold -/
theorem ext_of_mem_iff {b' : Bindings α} (h : ∀ x, x ∈ b ↔ x ∈ b') : b = b' := by
  have hperm : b.toList.Perm b'.toList := (List.perm_ext_iff_of_nodup b.nodup_toList b'.nodup_toList).2 h
  refine Bindings.ext (List.Perm.eq_of_pairwise (fun x y _ _ hxy hyx => ?_) b.sorted b'.sorted hperm)
  have hxx := Text.order_lt_trans hxy hyx
  rw [Text.order_self] at hxx
  cases hxx

/-! ## Binding many pairs -/

theorem insertAll_cons (b : Bindings α) (x : Text × α) (pairs : List (Text × α)) :
    b.insertAll (x :: pairs) = (b.insert x.1 x.2).insertAll pairs := rfl

theorem insertAll_append (b : Bindings α) (first second : List (Text × α)) :
    b.insertAll (first ++ second) = (b.insertAll first).insertAll second := List.foldl_append

/-- the last of the pairs with the key counts, and the old binding where there is none -/
theorem get?_insertAll (b : Bindings α) (pairs : List (Text × α)) (k : Text) :
    (b.insertAll pairs).get? k = (pairs.reverse.lookup k).or (b.get? k) := by
  induction pairs generalizing b with
  | nil => rfl
  | cons x pairs ih =>
    have hone : [x].lookup k = if k = x.1 then some x.2 else none := Text.lookup_cons x [] k
    rw [insertAll_cons, ih, get?_insert, List.reverse_cons, List.lookup_append, Option.or_assoc, hone]
    split_ifs <;> rfl

/-! ## The last pair with a text -/

/-- the last of the pairs with the text gives it the value -/
def BoundLast (pairs : List (Text × α)) (k : Text) (v : α) : Prop :=
  ∃ front back, pairs = front ++ (k, v) :: back ∧ ∀ x ∈ back, x.1 ≠ k

theorem lookup_reverse_eq_some_iff : pairs.reverse.lookup k = some v ↔ BoundLast pairs k v := by
  rw [List.lookup_eq_some_iff]
  constructor
  · rintro ⟨back, front, hpairs, hback⟩
    refine ⟨front.reverse, back.reverse, ?_, fun x hx => ?_⟩
    · rw [← List.reverse_reverse pairs, hpairs]
      simp
    · exact (bne_iff_ne.1 (hback x (List.mem_reverse.1 hx))).symm
  · rintro ⟨front, back, rfl, hback⟩
    refine ⟨back.reverse, front.reverse, by simp, fun x hx => ?_⟩
    exact bne_iff_ne.2 (hback x (List.mem_reverse.1 hx)).symm

theorem BoundLast.mem (h : BoundLast pairs k v) : (k, v) ∈ pairs := by
  obtain ⟨front, back, rfl, -⟩ := h
  exact List.mem_append_right _ List.mem_cons_self

theorem exists_boundLast_of_mem (h : (k, v) ∈ pairs) : ∃ w, BoundLast pairs k w := by
  cases hlast : pairs.reverse.lookup k with
  | none => exact absurd rfl (Text.lookup_eq_none_iff.1 hlast _ (List.mem_reverse.2 h))
  | some w => exact ⟨w, lookup_reverse_eq_some_iff.1 hlast⟩

theorem get?_insertAll_of_boundLast (b : Bindings α) (h : BoundLast pairs k v) :
    (b.insertAll pairs).get? k = some v := by
  rw [get?_insertAll, lookup_reverse_eq_some_iff.2 h, Option.some_or]

/-- pairs without the text leave it as it is -/
theorem get?_insertAll_of_free (b : Bindings α) (h : ∀ x ∈ pairs, x.1 ≠ k) : (b.insertAll pairs).get? k = b.get? k := by
  have hnone : pairs.reverse.lookup k = none :=
    Text.lookup_eq_none_iff.2 fun x hx => h x (List.mem_reverse.1 hx)
  rw [get?_insertAll, hnone, Option.none_or]

theorem mem_insertAll_empty_iff_boundLast : (k, v) ∈ insertAll empty pairs ↔ BoundLast pairs k v := by
  rw [← get?_eq_some_iff, get?_insertAll, get?_empty, Option.or_none, lookup_reverse_eq_some_iff]

/-! ## Pairs that agree -/

/-- pairs that never bind a text to two values are all kept -/
theorem mem_insertAll_empty_iff (h : ∀ x ∈ pairs, ∀ y ∈ pairs, x.1 = y.1 → x.2 = y.2) :
    (k, v) ∈ insertAll empty pairs ↔ (k, v) ∈ pairs := by
  rw [mem_insertAll_empty_iff_boundLast]
  refine ⟨BoundLast.mem, fun hin => ?_⟩
  obtain ⟨w, hw⟩ := exists_boundLast_of_mem hin
  rwa [show v = w from h _ hin _ hw.mem rfl]

/-- the pairs of bindings, bound one after the other, make these bindings -/
theorem insertAll_toList (b : Bindings α) : insertAll empty b.toList = b := by
  refine ext_of_mem_iff fun ⟨k, v⟩ => mem_insertAll_empty_iff fun x hx y hy hkey => ?_
  rw [eq_of_mem hx hy hkey]

/-- of the pairs of bindings the last with a text is the only one -/
theorem lookup_reverse_toList (b : Bindings α) (k : Text) : b.toList.reverse.lookup k = b.get? k := by
  have hget := get?_insertAll empty b.toList k
  rw [insertAll_toList, get?_empty, Option.or_none] at hget
  exact hget.symm

/-! ## Changing all values -/

/-- the same texts, each bound to what a function makes of its value -/
def mapValues (f : α → β) (b : Bindings α) : Bindings β where
  toList := b.toList.map fun x => (x.1, f x.2)
  sorted := List.pairwise_map.2 b.sorted

@[simp] theorem toList_mapValues (f : α → β) (b : Bindings α) :
    (b.mapValues f).toList = b.toList.map fun x => (x.1, f x.2) := rfl

@[simp] theorem keys_mapValues (f : α → β) (b : Bindings α) : (b.mapValues f).keys = b.keys := by
  simp [keys]

theorem mem_mapValues_iff {f : α → β} {w : β} : (k, w) ∈ b.mapValues f ↔ ∃ v, (k, v) ∈ b ∧ f v = w := by
  simp [← mem_toList]

theorem get?_mapValues (f : α → β) (b : Bindings α) (k : Text) : (b.mapValues f).get? k = (b.get? k).map f := by
  refine Option.ext fun w => ?_
  simp only [get?_eq_some_iff, mem_mapValues_iff, Option.map_eq_some_iff]

end ResourceServer.Routing.Bindings
