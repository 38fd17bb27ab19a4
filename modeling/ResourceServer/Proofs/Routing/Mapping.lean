/-
Registration of patterns and the search for the most specific one.

- `register_eq_ok_iff`: a registration succeeds just if the pattern is not blank and its key is free, and it binds the
  key.
- `registerAll_ok_iff`, `registerAll_eq_error`: many of them succeed just if no pattern is blank and all keys are new
  and distinct; else one of them fails after those in front of it.
- `registerAll_mem_iff`: after many of them, the mapping holds the old entries and one for each registration; their
  order makes no difference (`registerAll_perm`).
- `registerAll_entries`: every mapping is what registrations make of an empty one.
- `bestMatch?_mem`, `bestMatch?_eq_none_iff`: the search gives a pattern that matches, and none just if none does.
- `bestMatch?_map`: the search looks at patterns only.
-/
import ResourceServer.Proofs.Routing.Bindings
import ResourceServer.Proofs.Text.Segments
import ResourceServer.Routing.Mapping

namespace ResourceServer.Routing

open Glob (PathMatcher)

/-! ## Registration -/

@[simp] theorem Mapping.entries_bind (m : Mapping) (pattern : Text) (handler : Handler) :
    (m.bind pattern handler).entries = m.entries.insert (patternKey pattern) handler := rfl

@[simp] theorem Mapping.entries_empty (name : Text) (order : ℤ) : (Mapping.empty name order).entries = .empty := rfl

theorem register_eq_ok_iff {m m' : Mapping} {pattern : Text} {handler : Handler} :
    m.register pattern handler = .ok m' ↔
      Text.trim pattern ≠ [] ∧ m.entries.get? (patternKey pattern) = none ∧
      m' = m.bind pattern handler := by
  rw [Mapping.register]
  split_ifs with hblank htaken
  · simp [List.isEmpty_iff.1 hblank]
  · obtain ⟨h, hh⟩ := Option.isSome_iff_exists.1 htaken
    simp [hh]
  · have hfree : m.entries.get? (patternKey pattern) = none := by simpa using htaken
    have hne : Text.trim pattern ≠ [] := by simpa using hblank
    simp [hfree, hne, eq_comm]

/-- a blank pattern is refused, and else one whose key is taken -/
theorem register_eq_error_iff {m : Mapping} {pattern : Text} {handler : Handler} {e : RoutingError} :
    m.register pattern handler = .error e ↔
      (Text.trim pattern = [] ∧ e = .invalidPattern (emptyPatternReason m.name)) ∨
      (Text.trim pattern ≠ [] ∧ (∃ old, m.entries.get? (patternKey pattern) = some old) ∧
        e = .duplicatePattern (patternKey pattern) m.name) := by
  rw [Mapping.register]
  split_ifs with hblank htaken
  · simp [List.isEmpty_iff.1 hblank, eq_comm]
  · obtain ⟨old, hold⟩ := Option.isSome_iff_exists.1 htaken
    have hne : Text.trim pattern ≠ [] := by simpa using hblank
    simp [hne, hold, eq_comm]
  · have hfree : m.entries.get? (patternKey pattern) = none := by simpa using htaken
    have hne : Text.trim pattern ≠ [] := by simpa using hblank
    simp [hfree, hne]

/-- a list of registrations succeeds just if no pattern is blank and all keys are new and distinct -/
theorem registerAll_ok_iff {ι : Type} {m : Mapping} (pattern : ι → Text) (handler : ι → Handler) (xs : List ι) :
    (∃ m', xs.foldlM (fun m x => m.register (pattern x) (handler x)) m = .ok m') ↔
      (∀ x ∈ xs, Text.trim (pattern x) ≠ [] ∧ m.entries.get? (patternKey (pattern x)) = none) ∧
        (xs.map fun x => patternKey (pattern x)).Nodup := by
  induction xs generalizing m with
  | nil => simpa using ⟨m, rfl⟩
  | cons x xs ih =>
    rw [List.foldlM_cons, List.forall_mem_cons, List.map_cons, List.nodup_cons]
    cases hx : m.register (pattern x) (handler x) with
    | error e =>
      constructor
      · rintro ⟨m', hm'⟩
        cases hm'
      · rintro ⟨⟨⟨hblank, hfree⟩, -⟩, -⟩
        rw [register_eq_ok_iff.2 ⟨hblank, hfree, rfl⟩] at hx
        cases hx
    | ok m₁ =>
      obtain ⟨hblank, hfree, rfl⟩ := register_eq_ok_iff.1 hx
      -- later patterns find the keys that were taken before, and the one of this pattern
      have hlater : ∀ y, (m.bind (pattern x) (handler x)).entries.get? (patternKey (pattern y)) = none ↔
          patternKey (pattern x) ≠ patternKey (pattern y) ∧ m.entries.get? (patternKey (pattern y)) = none := by
        intro y
        rw [Mapping.entries_bind, Bindings.get?_insert]
        split_ifs with hkey
        · simp [hkey]
        · simp [Ne.symm hkey]
      have hnotin : patternKey (pattern x) ∉ xs.map (fun y => patternKey (pattern y)) ↔
          ∀ y ∈ xs, patternKey (pattern x) ≠ patternKey (pattern y) := by
        simp [eq_comm]
      refine ih.trans ?_
      simp only [hlater, hnotin]
      constructor
      · rintro ⟨hmore, hnodup⟩
        exact ⟨⟨⟨hblank, hfree⟩, fun y hy => ⟨(hmore y hy).1, (hmore y hy).2.2⟩⟩, fun y hy => (hmore y hy).2.1, hnodup⟩
      · rintro ⟨⟨-, hmore⟩, hkeys, hnodup⟩
        exact ⟨fun y hy => ⟨(hmore y hy).1, hkeys y hy, (hmore y hy).2⟩, hnodup⟩

/-- a run that fails does so at one member, behind members at which it does not -/
theorem foldlM_eq_error {α β ε : Type} {f : β → α → Except ε β} {xs : List α} {b : β} {e : ε}
    (h : xs.foldlM f b = .error e) :
    ∃ done x more b', xs = done ++ x :: more ∧ done.foldlM f b = .ok b' ∧ f b' x = .error e := by
  induction xs generalizing b with
  | nil => cases h
  | cons x xs ih =>
    rw [List.foldlM_cons] at h
    cases hx : f b x with
    | error e' =>
      rw [hx] at h
      cases h
      exact ⟨[], x, xs, b, rfl, rfl, hx⟩
    | ok b₁ =>
      rw [hx] at h
      obtain ⟨done, y, more, b', rfl, hdone, hy⟩ := ih h
      refine ⟨x :: done, y, more, b', rfl, ?_, hy⟩
      rw [List.foldlM_cons, hx]
      exact hdone

/-- what a list of registrations leaves: the same mapping with more entries -/
theorem registerAll_mem_iff {ι : Type} {m m' : Mapping} (pattern : ι → Text) (handler : ι → Handler) (xs : List ι)
    (h : xs.foldlM (fun m x => m.register (pattern x) (handler x)) m = .ok m') :
    m'.name = m.name ∧ m'.order = m.order ∧
      ∀ k v, (k, v) ∈ m'.entries ↔ (k, v) ∈ m.entries ∨ ∃ x ∈ xs, k = patternKey (pattern x) ∧ v = handler x := by
  induction xs generalizing m with
  | nil =>
    cases h
    exact ⟨rfl, rfl, by simp⟩
  | cons x xs ih =>
    rw [List.foldlM_cons] at h
    cases hx : m.register (pattern x) (handler x) with
    | error e => rw [hx] at h; cases h
    | ok m₁ =>
      rw [hx] at h
      obtain ⟨-, hfree, rfl⟩ := register_eq_ok_iff.1 hx
      obtain ⟨hname, horder, hmem⟩ := ih h
      refine ⟨hname, horder, fun k v => ?_⟩
      rw [hmem, Mapping.entries_bind, Bindings.mem_insert_iff_of_free hfree, or_assoc]
      simp only [List.exists_mem_cons_iff]

/-- the order of registrations that succeed makes no difference -/
theorem registerAll_perm {ι : Type} {m m' : Mapping} {pattern : ι → Text} {handler : ι → Handler} {xs ys : List ι}
    (hperm : xs.Perm ys) (h : xs.foldlM (fun m x => m.register (pattern x) (handler x)) m = .ok m') :
    ys.foldlM (fun m x => m.register (pattern x) (handler x)) m = .ok m' := by
  obtain ⟨hfree, hnodup⟩ := (registerAll_ok_iff pattern handler xs).1 ⟨m', h⟩
  obtain ⟨m'', h'⟩ := (registerAll_ok_iff pattern handler ys).2
    ⟨fun x hx => hfree x (hperm.mem_iff.2 hx), (hperm.map _).nodup_iff.1 hnodup⟩
  obtain ⟨hname, horder, hmem⟩ := registerAll_mem_iff pattern handler xs h
  obtain ⟨hname', horder', hmem'⟩ := registerAll_mem_iff pattern handler ys h'
  have hentries : m''.entries = m'.entries := by
    refine Bindings.ext_of_mem_iff fun ⟨k, v⟩ => ?_
    simp only [hmem, hmem', hperm.mem_iff]
  rw [h', Mapping.ext (hname'.trans hname.symm) (horder'.trans horder.symm) hentries]

/-- registrations of patterns that are not blank fail for a key that two of them have -/
theorem registerAll_eq_error {ι : Type} {m : Mapping} {pattern : ι → Text} {handler : ι → Handler} {xs : List ι}
    {e : RoutingError} (hm : m.entries = .empty) (hblank : ∀ x ∈ xs, Text.trim (pattern x) ≠ [])
    (h : xs.foldlM (fun m x => m.register (pattern x) (handler x)) m = .error e) :
    ∃ done x more, xs = done ++ x :: more ∧ e = .duplicatePattern (patternKey (pattern x)) m.name ∧
      ∃ y ∈ done, patternKey (pattern y) = patternKey (pattern x) := by
  obtain ⟨done, x, more, m', rfl, hdone, hx⟩ := foldlM_eq_error h
  obtain ⟨hname, -, hmem⟩ := registerAll_mem_iff pattern handler done hdone
  rcases register_eq_error_iff.1 hx with ⟨hnil, -⟩ | ⟨-, ⟨old, hold⟩, rfl⟩
  · exact absurd hnil (hblank x (by simp))
  refine ⟨done, x, more, rfl, by rw [hname], ?_⟩
  rcases (hmem _ _).1 (Bindings.mem_of_get? hold) with hin | ⟨y, hy, hkey, -⟩
  · rw [hm] at hin
    exact absurd hin (Bindings.not_mem_empty _)
  · exact ⟨y, hy, hkey.symm⟩

/-- a pattern in the form in which it is kept is not blank -/
theorem trim_ne_nil_of_kept {k : Text} (h : patternKey k = k) : Text.trim k ≠ [] := by
  intro hblank
  have hroot : k = ['/'] := by
    rw [← h, patternKey, hblank]
    rfl
  rw [hroot] at hblank
  cases hblank

/-- **Every mapping is what registrations make**: registering its entries, on an empty mapping, succeeds and gives it -/
theorem registerAll_entries (m : Mapping) :
    m.entries.toList.foldlM (fun m e => m.register e.1 e.2) (Mapping.empty m.name m.order) = .ok m := by
  have hkept : ∀ e ∈ m.entries.toList, patternKey e.1 = e.1 := fun e he => m.kept e.1 (Bindings.mem_keys_of_mem he)
  have hkeys : m.entries.toList.map (fun e => patternKey e.1) = m.entries.keys := List.map_congr_left hkept
  obtain ⟨m', hm'⟩ := (registerAll_ok_iff (m := .empty m.name m.order) Prod.fst Prod.snd m.entries.toList).2
    ⟨fun e he => ⟨trim_ne_nil_of_kept (hkept e he), rfl⟩, hkeys ▸ m.entries.nodup_keys⟩
  obtain ⟨hname, horder, hmem⟩ := registerAll_mem_iff Prod.fst Prod.snd m.entries.toList hm'
  have hentries : m'.entries = m.entries := by
    refine Bindings.ext_of_mem_iff fun ⟨k, v⟩ => ?_
    rw [hmem, Mapping.entries_empty, or_iff_right (Bindings.not_mem_empty _)]
    constructor
    · rintro ⟨e, he, rfl, rfl⟩
      rw [hkept e he]
      exact he
    · intro hin
      exact ⟨(k, v), hin, (hkept _ hin).symm, rfl⟩
  have hsame : m' = m := Mapping.ext hname horder hentries
  rw [hm', hsame]

/-! ## The most specific match -/

section

variable {α β : Type} {matcher : PathMatcher} {path : Text}

theorem moreSpecific_eq_or (matcher : PathMatcher) (path : Text) (a b : Text × α) :
    moreSpecific matcher path a b = a ∨ moreSpecific matcher path a b = b := by
  rw [moreSpecific]
  split_ifs
  · exact .inr rfl
  · exact .inl rfl

theorem foldl_moreSpecific_mem (matcher : PathMatcher) (path : Text) (a : Text × α) (more : List (Text × α)) :
    more.foldl (moreSpecific matcher path) a ∈ a :: more := by
  induction more generalizing a with
  | nil => exact List.mem_cons_self
  | cons b more ih =>
    rw [List.foldl_cons]
    rcases List.mem_cons.1 (ih (moreSpecific matcher path a b)) with he | hin
    · rw [he]
      rcases moreSpecific_eq_or matcher path a b with h | h
      · rw [h]; exact List.mem_cons_self
      · rw [h]; exact List.mem_cons_of_mem _ List.mem_cons_self
    · exact List.mem_cons_of_mem _ (List.mem_cons_of_mem _ hin)

theorem bestMatch?_eq_none_iff {entries : List (Text × α)} :
    bestMatch? matcher path entries = none ↔ ∀ e ∈ entries, matcher.accepts e.1 path = false := by
  have hfilter : (entries.filter fun e => matcher.accepts e.1 path) = [] ↔
      ∀ e ∈ entries, matcher.accepts e.1 path = false := by
    simp [List.filter_eq_nil_iff]
  rw [← hfilter, bestMatch?]
  cases entries.filter fun e => matcher.accepts e.1 path with
  | nil => simp
  | cons a more => simp

theorem bestMatch?_mem {entries : List (Text × α)} {e : Text × α} (h : bestMatch? matcher path entries = some e) :
    e ∈ entries ∧ matcher.accepts e.1 path = true := by
  rw [bestMatch?] at h
  split at h
  · cases h
  · rename_i a more hfilter
    cases h
    have hin := foldl_moreSpecific_mem matcher path a more
    rw [← hfilter] at hin
    exact List.mem_filter.1 hin

/-- the values bound play no part in the search -/
theorem bestMatch?_map (f : α → β) (entries : List (Text × α)) :
    bestMatch? matcher path (entries.map fun e => (e.1, f e.2)) =
      (bestMatch? matcher path entries).map fun e => (e.1, f e.2) := by
  have hfold : ∀ (more : List (Text × α)) (a : Text × α),
      (more.map fun e => (e.1, f e.2)).foldl (moreSpecific matcher path) (a.1, f a.2) =
        ((more.foldl (moreSpecific matcher path) a).1, f (more.foldl (moreSpecific matcher path) a).2) := by
    intro more
    induction more with
    | nil => intro a; rfl
    | cons b more ih =>
      intro a
      have hone : moreSpecific matcher path (a.1, f a.2) (b.1, f b.2) =
          ((moreSpecific matcher path a b).1, f (moreSpecific matcher path a b).2) := by
        rw [moreSpecific, moreSpecific]
        split_ifs <;> rfl
      rw [List.map_cons, List.foldl_cons, List.foldl_cons, hone, ih]
  rw [bestMatch?, bestMatch?, List.filter_map]
  simp only [Function.comp_def]
  cases entries.filter fun e => matcher.accepts e.1 path with
  | nil => rfl
  | cons a more => simp [hfold]

end

end ResourceServer.Routing
