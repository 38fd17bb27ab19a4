/-
The order of a route table.

Mappings are asked by their order, and those of equal order as they came. `Arranged` says this of a list beside what
came: orders never fall, and the mappings of each order stand as they came. There is one such list (`Arranged.unique`),
so that it does not matter whether mappings are sorted all at once or one after the other.
- `arranged_ofMappings`, `Arranged.foldl_add`: sorting arranges what came, and adding mappings keeps it arranged.
- `Arranged.findSome?_eq_some_iff`: what is found first in the arrangement, told by what came.
- `foldl_add_ofMappings`: the table after any additions, and the mapping that answers a look-up.
-/
import Mathlib.Data.List.Sort
import Mathlib.Tactic
import ResourceServer.Routing.Mapping

namespace ResourceServer.Routing

variable {ms ms' came front back : List Mapping} {m : Mapping} {table : RouteTable}

/-- the mappings by order, those of equal order as they came -/
structure Arranged (ms came : List Mapping) : Prop where
  rising : ms.Pairwise fun a b => a.order ≤ b.order
  equals : ∀ k, ms.filter (·.order = k) = came.filter (·.order = k)

/-! ## There is one arrangement -/

theorem Arranged.mem_iff (h : Arranged ms came) : m ∈ ms ↔ m ∈ came := by
  have hin : ∀ l : List Mapping, m ∈ l.filter (·.order = m.order) ↔ m ∈ l := fun l => by simp
  rw [← hin ms, h.equals, hin]

/-- the first mapping is of the lowest order -/
theorem order_le_of_mem (h : (m :: ms).Pairwise fun a b => a.order ≤ b.order) {a : Mapping} (ha : a ∈ m :: ms) :
    m.order ≤ a.order := by
  rcases List.mem_cons.1 ha with rfl | ha
  · exact le_rfl
  · exact (List.pairwise_cons.1 h).1 a ha

theorem Arranged.unique (h : Arranged ms came) (h' : Arranged ms' came) : ms = ms' := by
  induction ms generalizing ms' came with
  | nil =>
    cases ms' with
    | nil => rfl
    | cons m' ms' => exact absurd (h.mem_iff.2 (h'.mem_iff.1 List.mem_cons_self)) List.not_mem_nil
  | cons m ms ih =>
    cases ms' with
    | nil => exact absurd (h'.mem_iff.2 (h.mem_iff.1 List.mem_cons_self)) List.not_mem_nil
    | cons m' ms' =>
      have hequals : ∀ k, (m :: ms).filter (·.order = k) = (m' :: ms').filter (·.order = k) :=
        fun k => (h.equals k).trans (h'.equals k).symm
      have hle : m.order ≤ m'.order := order_le_of_mem h.rising (h.mem_iff.2 (h'.mem_iff.1 List.mem_cons_self))
      have hge : m'.order ≤ m.order := order_le_of_mem h'.rising (h'.mem_iff.2 (h.mem_iff.1 List.mem_cons_self))
      -- both are the first of their order
      have hfirst := hequals m.order
      rw [List.filter_cons_of_pos (by simp), List.filter_cons_of_pos (by simp [le_antisymm hge hle])] at hfirst
      obtain ⟨rfl, -⟩ := List.cons.inj hfirst
      have hmore : ∀ k, ms.filter (·.order = k) = ms'.filter (·.order = k) := by
        intro k
        have hk := hequals k
        rw [List.filter_cons, List.filter_cons] at hk
        split_ifs at hk
        · exact (List.cons.inj hk).2
        · exact hk
      rw [ih ⟨(List.pairwise_cons.1 h.rising).2, hmore⟩ ⟨(List.pairwise_cons.1 h'.rising).2, fun _ => rfl⟩]

/-! ## How it comes about -/

theorem order_trans (a b c : Mapping) (hab : decide (a.order ≤ b.order) = true) (hbc : decide (b.order ≤ c.order) = true) :
    decide (a.order ≤ c.order) = true := by
  rw [decide_eq_true_eq] at hab hbc ⊢
  exact hab.trans hbc

theorem order_total (a b : Mapping) : (decide (a.order ≤ b.order) || decide (b.order ≤ a.order)) = true := by
  rw [Bool.or_eq_true, decide_eq_true_eq, decide_eq_true_eq]
  exact le_total _ _

/-- sorting leaves the mappings of one order as they came -/
theorem filter_order_mergeSort (ms : List Mapping) (k : ℤ) :
    (ms.mergeSort fun a b => a.order ≤ b.order).filter (·.order = k) = ms.filter (·.order = k) := by
  have hequal : (ms.filter (·.order = k)).Pairwise fun a b => decide (a.order ≤ b.order) = true := by
    refine List.pairwise_of_forall_mem_list fun a ha b hb => ?_
    simp only [List.mem_filter, decide_eq_true_eq] at ha hb
    rw [decide_eq_true_eq, ha.2, hb.2]
  have hsub : (ms.filter (·.order = k)).Sublist (ms.mergeSort fun a b => a.order ≤ b.order) :=
    List.sublist_mergeSort order_trans order_total hequal List.filter_sublist
  have hfilter := hsub.filter fun m => m.order = k
  rw [List.filter_filter] at hfilter
  simp only [Bool.and_self] at hfilter
  exact (hfilter.eq_of_length ((List.mergeSort_perm ms _).filter _).length_eq.symm).symm

theorem arranged_ofMappings (ms : List Mapping) : Arranged (RouteTable.ofMappings ms).mappings ms where
  rising := (List.pairwise_mergeSort order_trans order_total ms).imp of_decide_eq_true
  equals := filter_order_mergeSort ms

theorem Arranged.add (h : Arranged table.mappings came) (m : Mapping) :
    Arranged (table.add m).mappings (came ++ [m]) where
  rising := (arranged_ofMappings _).rising
  equals k := by
    rw [RouteTable.add, (arranged_ofMappings _).equals, List.filter_append, List.filter_append, h.equals]

theorem Arranged.foldl_add (h : Arranged table.mappings came) (ys : List Mapping) :
    Arranged (ys.foldl RouteTable.add table).mappings (came ++ ys) := by
  induction ys generalizing table came with
  | nil => rwa [List.append_nil]
  | cons y ys ih =>
    rw [List.foldl_cons, List.append_cons]
    exact ih (h.add y)

/-! ## What is found first -/

/-- a list with the same mappings of some kind has one of them between the same others -/
theorem exists_split_of_filter_eq {p : Mapping → Bool} (hm : p m = true)
    (h : ms.filter p = (front ++ m :: back).filter p) :
    ∃ front' back', ms = front' ++ m :: back' ∧ front'.filter p = front.filter p := by
  rw [List.filter_append, List.filter_cons_of_pos hm, List.filter_eq_append_iff] at h
  obtain ⟨l, l', rfl, hfront, hl'⟩ := h
  obtain ⟨skipped, back', rfl, hskipped, -, -⟩ := List.filter_eq_cons_iff.1 hl'
  refine ⟨l ++ skipped, back', (List.append_assoc _ _ _).symm, ?_⟩
  rw [List.filter_append, List.filter_eq_nil_iff.2 hskipped, List.append_nil, hfront]

/-- what is found first in the arrangement comes from a mapping in front of which none of its order or a lower one has
an answer, and behind which none of a lower order has one -/
theorem Arranged.findSome?_eq_some_iff (h : Arranged ms came) {β : Type} {f : Mapping → Option β} {b : β} :
    ms.findSome? f = some b ↔
      ∃ front m back, came = front ++ m :: back ∧ f m = some b ∧
        (∀ a ∈ front, a.order ≤ m.order → f a = none) ∧ ∀ a ∈ back, a.order < m.order → f a = none := by
  constructor
  · intro hfind
    obtain ⟨first, m, more, rfl, hm, hnone⟩ := List.findSome?_eq_some_iff.1 hfind
    obtain ⟨front, back, rfl, hfront⟩ := exists_split_of_filter_eq (by simp) (h.equals m.order).symm
    have hrising := (List.pairwise_append.1 h.rising).2.1
    have hlower : ∀ a ∈ front ++ m :: back, a.order < m.order → f a = none := by
      intro a ha hlt
      rcases List.mem_append.1 (h.mem_iff.2 ha) with hin | hin
      · exact hnone a hin
      · exact absurd (order_le_of_mem hrising hin) (not_le.2 hlt)
    refine ⟨front, m, back, rfl, hm, fun a ha hle => ?_, fun a ha => hlower a (by simp [ha])⟩
    rcases hle.lt_or_eq with hlt | heq
    · exact hlower a (by simp [ha]) hlt
    · have hin : a ∈ front.filter (·.order = m.order) := by simp [ha, heq]
      rw [hfront] at hin
      exact hnone a (List.mem_filter.1 hin).1
  · rintro ⟨front, m, back, rfl, hm, hfront, hback⟩
    obtain ⟨first, more, rfl, hfirst⟩ := exists_split_of_filter_eq (by simp) (h.equals m.order)
    refine List.findSome?_eq_some_iff.2 ⟨first, m, more, rfl, hm, fun a ha => ?_⟩
    have hle : a.order ≤ m.order := (List.pairwise_append.1 h.rising).2.2 a ha m List.mem_cons_self
    rcases hle.lt_or_eq with hlt | heq
    · have hin : a ∈ front ++ m :: back := h.mem_iff.1 (List.mem_append_left _ ha)
      rcases List.mem_append.1 hin with hin | hin
      · exact hfront a hin hle
      · rcases List.mem_cons.1 hin with rfl | hin
        · exact absurd hlt (lt_irrefl _)
        · exact hback a hin hlt
    · have hin : a ∈ first.filter (·.order = m.order) := by simp [ha, heq]
      rw [hfirst] at hin
      exact hfront a (List.mem_filter.1 hin).1 hle

/-- **The route table after additions** is the one of all mappings at once: they stand by order, and those of equal
order as they came. A look-up is answered by the first of them that has a hit, whatever the later ones would find: by
one that came before all others of its order with a hit, while none of lower order has one. There is no hit just if no
mapping has one. -/
theorem foldl_add_ofMappings (xs ys : List Mapping) :
    ys.foldl RouteTable.add (.ofMappings xs) = .ofMappings (xs ++ ys) ∧
    (RouteTable.ofMappings (xs ++ ys)).mappings.Perm (xs ++ ys) ∧
    (RouteTable.ofMappings (xs ++ ys)).mappings.Pairwise (fun a b => a.order ≤ b.order) ∧
    (∀ k, (RouteTable.ofMappings (xs ++ ys)).mappings.filter (·.order = k) = (xs ++ ys).filter (·.order = k)) ∧
    ∀ matcher path,
      (∀ hit, (RouteTable.ofMappings (xs ++ ys)).lookup? matcher path = some hit ↔
        ∃ front m back, (RouteTable.ofMappings (xs ++ ys)).mappings = front ++ m :: back ∧
          m.lookup? matcher path = some hit ∧ ∀ a ∈ front, a.lookup? matcher path = none) ∧
      (∀ hit, (RouteTable.ofMappings (xs ++ ys)).lookup? matcher path = some hit ↔
        ∃ front m back, xs ++ ys = front ++ m :: back ∧ m.lookup? matcher path = some hit ∧
          (∀ a ∈ front, a.order ≤ m.order → a.lookup? matcher path = none) ∧
          ∀ a ∈ back, a.order < m.order → a.lookup? matcher path = none) ∧
      ((RouteTable.ofMappings (xs ++ ys)).lookup? matcher path = none ↔
        ∀ m ∈ xs ++ ys, m.lookup? matcher path = none) := by
  have harranged := arranged_ofMappings (xs ++ ys)
  have hfold := (arranged_ofMappings xs).foldl_add ys
  refine ⟨?_, List.mergeSort_perm _ _, harranged.rising, harranged.equals, fun matcher path => ⟨fun hit => ?_,
    fun hit => harranged.findSome?_eq_some_iff, ?_⟩⟩
  · exact congrArg RouteTable.mk (hfold.unique harranged)
  · exact List.findSome?_eq_some_iff
  · rw [RouteTable.lookup?, List.findSome?_eq_none_iff]
    exact forall_congr' fun m => by rw [harranged.mem_iff]

end ResourceServer.Routing
