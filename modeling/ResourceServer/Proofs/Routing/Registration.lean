/-
Registering patterns one after the other, where some calls fail.

A call that fails leaves the mapping as it is, and callers go on with it. `Registration.For` says that a call is for a
key: its pattern is not blank and is kept under that key. The first call for a key finds it free, so it succeeds, and
each later one finds it taken.
- `HoldsFirst.after`: a call keeps the law that the entries are the keys of the calls, each with its first handler.
- `holdsFirst_registering`: so do any calls on an empty mapping.
- `firstFor_iff_succeeded`: the first call for a key is the one that succeeded.
- `registering_firstWins`: which calls succeed, with what errors the others fail, and what is there in the end.
-/
import ResourceServer.Proofs.Routing.Mapping

namespace ResourceServer.Routing

/-- a call that registers a pattern -/
structure Registration where
  pattern : Text
  handler : Handler

/-- the call is for the key: its pattern is not blank and is kept under it -/
def Registration.For (c : Registration) (k : Text) : Prop := Text.trim c.pattern ≠ [] ∧ patternKey c.pattern = k

/-- the first of the calls for the key has the handler -/
def FirstFor (calls : List Registration) (k : Text) (h : Handler) : Prop :=
  ∃ earlier c later, calls = earlier ++ c :: later ∧ c.For k ∧ c.handler = h ∧ ∀ d ∈ earlier, ¬ d.For k

namespace Mapping

/-- whether a call succeeds -/
def Accepts (m : Mapping) (c : Registration) : Prop := ∃ m', m.register c.pattern c.handler = .ok m'

/-- the mapping behind a call -/
def after (m : Mapping) (c : Registration) : Mapping :=
  match m.register c.pattern c.handler with
  | .ok m' => m'
  | .error _ => m

/-- the mapping behind many calls -/
def registering (m : Mapping) (calls : List Registration) : Mapping := calls.foldl after m

end Mapping

/-- the call is one of those that succeeded when the calls were made, one after the other, on an empty mapping -/
def Succeeded (name : Text) (order : ℤ) (calls : List Registration) (c : Registration) : Prop :=
  ∃ earlier later, calls = earlier ++ c :: later ∧ ((Mapping.empty name order).registering earlier).Accepts c

variable {m : Mapping} {c : Registration} {calls : List Registration} {k : Text} {h : Handler}

/-! ## The calls for a key -/

theorem firstFor_append (hfirst : FirstFor calls k h) (more : List Registration) : FirstFor (calls ++ more) k h := by
  obtain ⟨earlier, c, later, rfl, hc⟩ := hfirst
  exact ⟨earlier, c, later ++ more, by simp, hc⟩

/-- the last call is the first one for a key just if none before it was for it -/
theorem firstFor_concat_iff :
    FirstFor (calls ++ [c]) k h ↔ FirstFor calls k h ∨ (c.For k ∧ c.handler = h ∧ ∀ d ∈ calls, ¬ d.For k) := by
  constructor
  · rintro ⟨earlier, d, later, hcalls, hd⟩
    rcases List.eq_nil_or_concat' later with rfl | ⟨later, last, rfl⟩
    · obtain ⟨rfl, he⟩ := List.append_inj' hcalls rfl
      cases he
      exact .inr hd
    · rw [← List.cons_append, ← List.append_assoc] at hcalls
      obtain ⟨rfl, -⟩ := List.append_inj' hcalls rfl
      exact .inl ⟨earlier, d, later, rfl, hd⟩
  · rintro (hfirst | hlast)
    · exact firstFor_append hfirst [c]
    · exact ⟨calls, c, [], rfl, hlast⟩

theorem exists_firstFor_iff : (∃ h, FirstFor calls k h) ↔ ∃ c ∈ calls, c.For k := by
  constructor
  · rintro ⟨h, earlier, c, later, rfl, hc, -⟩
    exact ⟨c, by simp, hc⟩
  · rintro ⟨c, hcalls, hc⟩
    induction calls with
    | nil => cases hcalls
    | cons d calls ih =>
      by_cases hd : d.For k
      · exact ⟨d.handler, [], d, calls, rfl, hd, rfl, by simp⟩
      · have hmore : c ∈ calls := (List.mem_cons.1 hcalls).resolve_left fun e => hd (e ▸ hc)
        obtain ⟨h, earlier, first, later, rfl, hfirst, hh, hnone⟩ := ih hmore
        exact ⟨h, d :: earlier, first, later, rfl, hfirst, hh, List.forall_mem_cons.2 ⟨hd, hnone⟩⟩

/-! ## One call -/

namespace Mapping

theorem after_of_ok {m' : Mapping} (hok : m.register c.pattern c.handler = .ok m') : m.after c = m' := by
  rw [after, hok]

theorem after_of_not_accepts (hc : ¬ m.Accepts c) : m.after c = m := by
  rw [after]
  split
  · rename_i m' hm'
    exact absurd ⟨m', hm'⟩ hc
  · rfl

theorem accepts_iff : m.Accepts c ↔ Text.trim c.pattern ≠ [] ∧ m.entries.get? (patternKey c.pattern) = none := by
  constructor
  · rintro ⟨m', hm'⟩
    obtain ⟨hne, hfree, -⟩ := register_eq_ok_iff.1 hm'
    exact ⟨hne, hfree⟩
  · rintro ⟨hne, hfree⟩
    exact ⟨_, register_eq_ok_iff.2 ⟨hne, hfree, rfl⟩⟩

theorem registering_snoc (m : Mapping) (calls : List Registration) (c : Registration) :
    m.registering (calls ++ [c]) = (m.registering calls).after c :=
  List.foldl_concat after m c calls

end Mapping

/-! ## The law of a mapping and its calls -/

/-- the entries are the keys of the calls, each with the handler of the first call for it -/
def HoldsFirst (m : Mapping) (calls : List Registration) : Prop := ∀ k h, (k, h) ∈ m.entries ↔ FirstFor calls k h

theorem holdsFirst_empty (name : Text) (order : ℤ) : HoldsFirst (.empty name order) [] := by
  intro k h
  simp [FirstFor]

namespace HoldsFirst

/-- a key is free as long as no call was for it -/
theorem get?_eq_none_iff (hm : HoldsFirst m calls) : m.entries.get? k = none ↔ ∀ d ∈ calls, ¬ d.For k := by
  have hentry : ∀ h, m.entries.get? k = some h ↔ FirstFor calls k h :=
    fun h => Bindings.get?_eq_some_iff.trans (hm k h)
  rw [Option.eq_none_iff_forall_ne_some]
  simp only [ne_eq, hentry, ← not_exists, exists_firstFor_iff]
  simp

theorem accepts_iff (hm : HoldsFirst m calls) :
    m.Accepts c ↔ Text.trim c.pattern ≠ [] ∧ ∀ d ∈ calls, ¬ d.For (patternKey c.pattern) := by
  rw [Mapping.accepts_iff, hm.get?_eq_none_iff]

/-- **A call keeps the law**, whether it succeeds or not -/
theorem after (hm : HoldsFirst m calls) (c : Registration) : HoldsFirst (m.after c) (calls ++ [c]) := by
  by_cases hc : m.Accepts c
  · obtain ⟨hne, hnone⟩ := hm.accepts_iff.1 hc
    obtain ⟨m', hm'⟩ := hc
    rw [Mapping.after_of_ok hm']
    obtain ⟨-, hfree, rfl⟩ := register_eq_ok_iff.1 hm'
    intro k h
    rw [Mapping.entries_bind, Bindings.mem_insert_iff_of_free hfree, firstFor_concat_iff, hm k h]
    refine or_congr_right ⟨?_, ?_⟩
    · rintro ⟨rfl, rfl⟩
      exact ⟨⟨hne, rfl⟩, rfl, hnone⟩
    · rintro ⟨⟨-, rfl⟩, rfl, -⟩
      exact ⟨rfl, rfl⟩
  · rw [Mapping.after_of_not_accepts hc]
    intro k h
    rw [hm k h, firstFor_concat_iff]
    -- the first call for a key would have succeeded
    refine (or_iff_left ?_).symm
    rintro ⟨⟨hne, rfl⟩, -, hnone⟩
    exact hc (hm.accepts_iff.2 ⟨hne, hnone⟩)

end HoldsFirst

theorem holdsFirst_registering (name : Text) (order : ℤ) (calls : List Registration) :
    HoldsFirst ((Mapping.empty name order).registering calls) calls := by
  induction calls using List.reverseRecOn with
  | nil => exact holdsFirst_empty name order
  | append_singleton calls c ih =>
    rw [Mapping.registering_snoc]
    exact ih.after c

/-- the first call for a key is the one that succeeded -/
theorem firstFor_iff_succeeded (name : Text) (order : ℤ) :
    FirstFor calls k h ↔ ∃ c, Succeeded name order calls c ∧ patternKey c.pattern = k ∧ c.handler = h := by
  constructor
  · rintro ⟨earlier, c, later, hcalls, ⟨hne, rfl⟩, hh, hnone⟩
    have haccepts := (holdsFirst_registering name order earlier).accepts_iff.2 ⟨hne, hnone⟩
    exact ⟨c, ⟨earlier, later, hcalls, haccepts⟩, rfl, hh⟩
  · rintro ⟨c, ⟨earlier, later, hcalls, haccepts⟩, rfl, hh⟩
    obtain ⟨hne, hnone⟩ := (holdsFirst_registering name order earlier).accepts_iff.1 haccepts
    exact ⟨earlier, c, later, hcalls, ⟨hne, rfl⟩, hh, hnone⟩

/-- a key is taken just if a call for it succeeded -/
theorem exists_get?_registering_iff (name : Text) (order : ℤ) (calls : List Registration) (k : Text) :
    (∃ h, ((Mapping.empty name order).registering calls).entries.get? k = some h) ↔
      ∃ c, Succeeded name order calls c ∧ patternKey c.pattern = k := by
  have hm := holdsFirst_registering name order calls
  simp only [Bindings.get?_eq_some_iff, hm k, firstFor_iff_succeeded name order]
  constructor
  · rintro ⟨h, c, hc, hk, -⟩
    exact ⟨c, hc, hk⟩
  · rintro ⟨c, hc, hk⟩
    exact ⟨c.handler, c, hc, hk, rfl⟩

theorem get?_registering_eq_none_iff (name : Text) (order : ℤ) (calls : List Registration) (k : Text) :
    ((Mapping.empty name order).registering calls).entries.get? k = none ↔
      ∀ c, Succeeded name order calls c → patternKey c.pattern ≠ k := by
  rw [Option.eq_none_iff_forall_ne_some, ← not_exists, exists_get?_registering_iff]
  simp only [not_exists, not_and, ne_eq]

theorem registering_name (m : Mapping) (calls : List Registration) :
    (m.registering calls).name = m.name ∧ (m.registering calls).order = m.order := by
  induction calls using List.reverseRecOn with
  | nil => exact ⟨rfl, rfl⟩
  | append_singleton calls c ih =>
    rw [Mapping.registering_snoc]
    by_cases hc : (m.registering calls).Accepts c
    · obtain ⟨m', hm'⟩ := hc
      rw [Mapping.after_of_ok hm']
      obtain ⟨-, -, rfl⟩ := register_eq_ok_iff.1 hm'
      exact ih
    · rw [Mapping.after_of_not_accepts hc]
      exact ih

/-- **The first call for a key wins.** For any calls on an empty mapping, and one more:
- it succeeds just if its pattern is not blank and no earlier call that succeeded has the same key; otherwise it fails
  with the error of a blank pattern or of a key that is taken, and leaves the mapping as it is;
- the entries, in the order of their keys, are the keys of the calls, each with the handler of the first call for it;
- every key is rooted, and whatever is called later, no entry goes or changes. -/
theorem registering_firstWins (name : Text) (order : ℤ) (calls : List Registration) :
    let m := (Mapping.empty name order).registering calls
    (∀ c : Registration,
      (m.Accepts c ↔ Text.trim c.pattern ≠ [] ∧
        ∀ d, Succeeded name order calls d → patternKey d.pattern ≠ patternKey c.pattern) ∧
      (∀ e, m.register c.pattern c.handler = .error e ↔
        (Text.trim c.pattern = [] ∧ e = .invalidPattern (emptyPatternReason name)) ∨
        (Text.trim c.pattern ≠ [] ∧
          (∃ d, Succeeded name order calls d ∧ patternKey d.pattern = patternKey c.pattern) ∧
          e = .duplicatePattern (patternKey c.pattern) name)) ∧
      (¬ m.Accepts c → (Mapping.empty name order).registering (calls ++ [c]) = m)) ∧
    m.name = name ∧ m.order = order ∧ (m.entries.keys.Pairwise fun k k' => Text.order k k' = .lt) ∧
    (∀ k h, (k, h) ∈ m.entries ↔ FirstFor calls k h) ∧
    (∀ k ∈ m.entries.keys, Text.rooted k = true) ∧
    ∀ more k h, (k, h) ∈ m.entries → (k, h) ∈ ((Mapping.empty name order).registering (calls ++ more)).entries := by
  intro m
  have hm : HoldsFirst m calls := holdsFirst_registering name order calls
  obtain ⟨hname, horder⟩ := registering_name (.empty name order) calls
  refine ⟨fun c => ⟨?_, fun e => ?_, fun hc => ?_⟩, hname, horder, m.entries.sorted_keys, hm, fun k hk => ?_,
    fun more k h hin => ?_⟩
  · rw [Mapping.accepts_iff, get?_registering_eq_none_iff]
  · rw [register_eq_error_iff, exists_get?_registering_iff, hname]
    rfl
  · rw [Mapping.registering_snoc, Mapping.after_of_not_accepts hc]
  · obtain ⟨h, hin⟩ := Bindings.mem_keys_iff.1 hk
    exact m.rooted_of_mem hin
  · rw [holdsFirst_registering name order (calls ++ more) k h]
    exact firstFor_append ((hm k h).1 hin) more

/-- the same key from a padded pattern, a rooted one and one without a slash, with a blank pattern between them -/
theorem registering_firstWins_padded :
    let calls : List Registration := [⟨" a/*\t".toList, .endpoint "first".toList⟩,
      ⟨"/a/*".toList, .endpoint "second".toList⟩, ⟨"  ".toList, .endpoint "blank".toList⟩]
    let again : Registration := ⟨"a/*".toList, .endpoint "third".toList⟩
    let m := (Mapping.empty "resources".toList 1).registering calls
    let more := (Mapping.empty "resources".toList 1).registering (calls ++ [again])
    m.register again.pattern again.handler = .error (.duplicatePattern "/a/*".toList "resources".toList) ∧
      (∃ d, Succeeded "resources".toList 1 calls d ∧ patternKey d.pattern = patternKey again.pattern) ∧
      ¬ m.Accepts again ∧ more = m ∧
      ("/a/*".toList, .endpoint "first".toList) ∈ m.entries ∧
      ("/a/*".toList, .endpoint "first".toList) ∈ more.entries := by
  intro calls again m more
  obtain ⟨hcall, -, -, -, -, -, hkept⟩ := registering_firstWins "resources".toList 1 calls
  obtain ⟨-, herror, hsame⟩ := hcall again
  have hfails : m.register again.pattern again.handler =
      .error (.duplicatePattern "/a/*".toList "resources".toList) := rfl
  have hrefused : ¬ m.Accepts again := by
    rintro ⟨m', hm'⟩
    rw [hfails] at hm'
    cases hm'
  have hentry : ("/a/*".toList, Handler.endpoint "first".toList) ∈ m.entries := List.mem_singleton.2 rfl
  rcases (herror _).1 hfails with ⟨-, hinvalid⟩ | ⟨-, htaken, -⟩
  · cases hinvalid
  · exact ⟨hfails, htaken, hrefused, hsame hrefused, hentry, hkept [again] _ _ hentry⟩

end ResourceServer.Routing
