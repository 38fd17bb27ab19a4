/-
Tables of texts.

`Bindings` hold values under texts, in the order of the texts. The order is part of the type: no text is bound twice,
and bindings are given by what they hold. `insert` puts a binding in its place, or in the place of an earlier one of the
text.
- `insertPair_sorted`: this keeps the order.
- `get?_eq_some_iff`: look-ups give just the pairs that are held.
- `get?_insert`, `mem_insert_iff_of_free`: what a binding more changes.
-/
import ResourceServer.Text

namespace ResourceServer.Routing

/-- values bound to texts, each text once, in the order of the texts -/
@[ext] structure Bindings (α : Type) where
  toList : List (Text × α)
  sorted : toList.Pairwise fun x y => Text.order x.1 y.1 = .lt

namespace Bindings

variable {α β : Type} {b : Bindings α} {key k : Text} {value v : α}

/-- no bindings -/
def empty : Bindings α := ⟨[], .nil⟩

instance : Membership (Text × α) (Bindings α) := ⟨fun b x => x ∈ b.toList⟩

/-- the value bound to a text -/
def get? (b : Bindings α) (key : Text) : Option α := b.toList.lookup key

/-- the bound texts -/
def keys (b : Bindings α) : List Text := b.toList.map (·.1)

/-- what a function makes of the bindings, one after the other -/
def map (f : Text × α → β) (b : Bindings α) : List β := b.toList.map f

@[simp] theorem mem_toList {x : Text × α} : x ∈ b.toList ↔ x ∈ b := .rfl

@[simp] theorem not_mem_empty (x : Text × α) : x ∉ (empty : Bindings α) := List.not_mem_nil

@[simp] theorem get?_empty (k : Text) : (empty : Bindings α).get? k = none := rfl

theorem mem_keys_iff : k ∈ b.keys ↔ ∃ v, (k, v) ∈ b := by
  simp [keys]

theorem mem_keys_of_mem {x : Text × α} (h : x ∈ b) : x.1 ∈ b.keys := List.mem_map_of_mem h

theorem sorted_keys (b : Bindings α) : b.keys.Pairwise fun s t => Text.order s t = .lt := List.pairwise_map.2 b.sorted

theorem nodup_keys (b : Bindings α) : b.keys.Nodup := by
  refine List.Pairwise.imp (fun {s t} hlt hst => ?_) b.sorted_keys
  rw [hst, Text.order_self] at hlt
  cases hlt

/-! ## Look-ups -/

theorem mem_of_get? (h : b.get? k = some v) : (k, v) ∈ b := Text.mem_of_lookup h

theorem lookup_of_mem {pairs : List (Text × α)} (hsorted : pairs.Pairwise fun x y => Text.order x.1 y.1 = .lt)
    (h : (k, v) ∈ pairs) : pairs.lookup k = some v := by
  induction pairs with
  | nil => cases h
  | cons y pairs ih =>
    obtain ⟨hy, hpairs⟩ := List.pairwise_cons.1 hsorted
    rw [Text.lookup_cons]
    rcases List.mem_cons.1 h with rfl | h
    · exact if_pos rfl
    · have hne : k ≠ y.1 := by
        intro he
        have hlt := hy _ h
        rw [← he, Text.order_self] at hlt
        cases hlt
      rw [if_neg hne, ih hpairs h]

/-- look-ups give just the pairs that are held -/
theorem get?_eq_some_iff : b.get? k = some v ↔ (k, v) ∈ b := ⟨mem_of_get?, lookup_of_mem b.sorted⟩

/-- no text is bound twice -/
theorem eq_of_mem {x y : Text × α} (hx : x ∈ b) (hy : y ∈ b) (h : x.1 = y.1) : x = y := by
  have hvalue := get?_eq_some_iff.2 hx
  rw [h, get?_eq_some_iff.2 hy] at hvalue
  exact Prod.ext h (Option.some.inj hvalue).symm

/-! ## Binding texts -/

/-- the pairs with one more, in place of one with the same text -/
def insertPair (key : Text) (value : α) : List (Text × α) → List (Text × α)
  | [] => [(key, value)]
  | (k, v) :: more =>
    match Text.order key k with
    | .lt => (key, value) :: (k, v) :: more
    | .eq => (key, value) :: more
    | .gt => (k, v) :: insertPair key value more

theorem mem_insertPair {pairs : List (Text × α)} {x : Text × α} (h : x ∈ insertPair key value pairs) :
    x = (key, value) ∨ x ∈ pairs := by
  induction pairs with
  | nil => simpa [insertPair] using h
  | cons y pairs ih =>
    rw [insertPair] at h
    split at h
    · exact List.mem_cons.1 h
    · rcases List.mem_cons.1 h with rfl | h
      · exact .inl rfl
      · exact .inr (List.mem_cons_of_mem _ h)
    · rcases List.mem_cons.1 h with rfl | h
      · exact .inr List.mem_cons_self
      · exact (ih h).imp_right (List.mem_cons_of_mem _)

/-- a pair more keeps the order -/
theorem insertPair_sorted {pairs : List (Text × α)} (h : pairs.Pairwise fun x y => Text.order x.1 y.1 = .lt)
    (key : Text) (value : α) : (insertPair key value pairs).Pairwise fun x y => Text.order x.1 y.1 = .lt := by
  induction pairs with
  | nil => exact List.pairwise_singleton _ _
  | cons y pairs ih =>
    obtain ⟨hy, hpairs⟩ := List.pairwise_cons.1 h
    rw [insertPair]
    split
    · rename_i hlt
      refine List.pairwise_cons.2 ⟨fun x hx => ?_, h⟩
      rcases List.mem_cons.1 hx with rfl | hx
      · exact hlt
      · exact Text.order_lt_trans hlt (hy x hx)
    · rename_i heq
      obtain rfl := Text.order_eq_iff.1 heq
      exact List.pairwise_cons.2 ⟨hy, hpairs⟩
    · rename_i hgt
      refine List.pairwise_cons.2 ⟨fun x hx => ?_, ih hpairs⟩
      rcases mem_insertPair hx with rfl | hx
      · exact Text.order_gt_iff.1 hgt
      · exact hy x hx

theorem lookup_insertPair (pairs : List (Text × α)) (key k : Text) (value : α) :
    (insertPair key value pairs).lookup k = if k = key then some value else pairs.lookup k := by
  induction pairs with
  | nil => rw [insertPair, Text.lookup_cons]
  | cons y pairs ih =>
    rw [insertPair]
    split
    · rw [Text.lookup_cons]
    · rename_i heq
      obtain rfl := Text.order_eq_iff.1 heq
      rw [Text.lookup_cons, Text.lookup_cons]
      split <;> rfl
    · rename_i hgt
      have hne : key ≠ y.1 := by
        rintro rfl
        rw [Text.order_self] at hgt
        cases hgt
      rw [Text.lookup_cons, Text.lookup_cons, ih]
      by_cases h : k = y.1
      · rw [if_pos h, if_neg (fun e => hne (e.symm.trans h)), if_pos h]
      · rw [if_neg h, if_neg h]

/-- binds a text, in place of an earlier binding -/
def insert (b : Bindings α) (key : Text) (value : α) : Bindings α :=
  ⟨insertPair key value b.toList, insertPair_sorted b.sorted key value⟩

/-- binds the pairs one after the other -/
def insertAll (b : Bindings α) (pairs : List (Text × α)) : Bindings α :=
  pairs.foldl (fun b (key, value) => b.insert key value) b

theorem mem_insert {x : Text × α} (h : x ∈ b.insert key value) : x = (key, value) ∨ x ∈ b := mem_insertPair h

theorem get?_insert (b : Bindings α) (key k : Text) (value : α) :
    (b.insert key value).get? k = if k = key then some value else b.get? k := lookup_insertPair b.toList key k value

/-- a text that is free is bound, and nothing else changes -/
theorem mem_insert_iff_of_free (hfree : b.get? key = none) :
    (k, v) ∈ b.insert key value ↔ (k, v) ∈ b ∨ (k = key ∧ v = value) := by
  rw [← get?_eq_some_iff, get?_insert, ← get?_eq_some_iff]
  split
  · rename_i hk
    subst hk
    simp [hfree, eq_comm]
  · rename_i hk
    simp [hk]

/-! ## Changing values -/

/-- binds each text to what a function makes of its value, if anything -/
def filterMapValues (f : α → Option β) (b : Bindings α) : Bindings β where
  toList := b.toList.filterMap fun (k, v) => (f v).map (k, ·)
  sorted := by
    refine List.Pairwise.filterMap _ (fun x y hxy a ha c hc => ?_) b.sorted
    obtain ⟨_, -, rfl⟩ := Option.map_eq_some_iff.1 ha
    obtain ⟨_, -, rfl⟩ := Option.map_eq_some_iff.1 hc
    exact hxy

theorem mem_filterMapValues_iff {f : α → Option β} {w : β} :
    (k, w) ∈ b.filterMapValues f ↔ ∃ v, (k, v) ∈ b ∧ f v = some w := by
  rw [← mem_toList, filterMapValues, List.mem_filterMap]
  constructor
  · rintro ⟨⟨k', v⟩, hin, he⟩
    obtain ⟨_, hf, hk⟩ := Option.map_eq_some_iff.1 he
    cases hk
    exact ⟨v, hin, hf⟩
  · rintro ⟨v, hin, hf⟩
    exact ⟨(k, v), hin, by simp [hf]⟩

theorem get?_filterMapValues (f : α → Option β) (b : Bindings α) (k : Text) :
    (b.filterMapValues f).get? k = (b.get? k).bind f := by
  refine Option.ext fun w => ?_
  simp only [get?_eq_some_iff, mem_filterMapValues_iff, Option.bind_eq_some_iff]

end Bindings

end ResourceServer.Routing
