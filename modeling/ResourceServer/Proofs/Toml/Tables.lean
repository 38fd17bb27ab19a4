/-
What a table keeps under a name, before and after it changes.
-/
import Mathlib.Tactic
import ResourceServer.Toml.Document

namespace ResourceServer.Toml

variable {ι : Type} {entries : List (Key × ι)} {t : TableOf ι} {name : Text} {item : ι}

/-! ## Entries -/

theorem named?_cons (e : Key × ι) (entries : List (Key × ι)) (name : Text) :
    named? (e :: entries) name = if e.1.name = name then some e.2 else named? entries name := by
  rw [named?, named?, List.find?_cons]
  by_cases h : e.1.name = name
  · rw [if_pos h, beq_iff_eq.2 h]
    rfl
  · rw [if_neg h, beq_eq_false_iff_ne.2 h]

theorem named?_append (entries more : List (Key × ι)) (name : Text) :
    named? (entries ++ more) name = (named? entries name).or (named? more name) := by
  rw [named?, named?, named?, List.find?_append, Option.map_or]

theorem named?_replaceEntry (entries : List (Key × ι)) (name : Text) (item : ι) (n : Text) :
    named? (replaceEntry entries name item) n =
      if n = name then (named? entries n).map fun _ => item else named? entries n := by
  rw [replaceEntry]
  induction entries with
  | nil => split_ifs <;> rfl
  | cons e entries ih =>
    rw [List.map_cons, named?_cons, named?_cons, ih]
    by_cases hn : n = name
    · subst hn
      by_cases he : e.1.name = n
      · simp [he]
      · simp [he]
    · by_cases he : e.1.name = name
      · subst he
        simp [hn, Ne.symm hn]
      · simp [he, hn]

/-! ## Tables -/

namespace TableOf

theorem mem_of_get? (h : t.get? name = some item) : ∃ key, (key, item) ∈ t.entries ∧ key.name = name := by
  obtain ⟨⟨key, item⟩, hfind, rfl⟩ := Option.map_eq_some_iff.1 h
  have hname := List.find?_some hfind
  exact ⟨key, List.mem_of_find?_eq_some hfind, beq_iff_eq.1 hname⟩

/-- each key of a table leads to something -/
theorem exists_get?_of_mem {e : Key × ι} (he : e ∈ t.entries) : ∃ item, t.get? e.1.name = some item := by
  rw [TableOf.get?, named?, ← Option.isSome_iff_exists, Option.isSome_map, List.find?_isSome]
  exact ⟨e, he, beq_self_eq_true _⟩

/-- where keys are bound once, each entry counts -/
theorem get?_of_mem (h : (t.entries.map (·.1.name)).Nodup) {e : Key × ι} (he : e ∈ t.entries) :
    t.get? e.1.name = some e.2 := by
  rw [TableOf.get?, named?]
  cases hfind : t.entries.find? fun e' => e'.1.name == e.1.name with
  | none => exact absurd (beq_self_eq_true _) (List.find?_eq_none.1 hfind e he)
  | some e' =>
    have hsame := List.find?_some hfind
    rw [List.inj_on_of_nodup_map h (List.mem_of_find?_eq_some hfind) he (beq_iff_eq.1 hsame)]
    rfl

theorem has_eq_true_iff : t.has name = true ↔ ∃ item, t.get? name = some item := by
  rw [TableOf.has, Option.isSome_iff_exists]

theorem get?_append (t : TableOf ι) (key : Key) (item : ι) (n : Text) :
    (t.append key item).get? n = (t.get? n).or (if key.name = n then some item else none) := by
  rw [TableOf.get?, TableOf.get?, TableOf.append, named?_append, named?_cons]
  rfl

/-- entries behind those of a table answer only where it has no answer -/
theorem get?_extended (t : TableOf ι) (more : List (Key × ι)) (n : Text) :
    TableOf.get? { t with entries := t.entries ++ more } n = (t.get? n).or (named? more n) :=
  named?_append t.entries more n

theorem get?_replace (t : TableOf ι) (name : Text) (item : ι) (n : Text) :
    (t.replace name item).get? n = if n = name then (t.get? n).map fun _ => item else t.get? n :=
  named?_replaceEntry t.entries name item n

theorem get?_replace_self {old : ι} (h : t.get? name = some old) (item : ι) :
    (t.replace name item).get? name = some item := by
  rw [get?_replace, if_pos rfl, h, Option.map_some]

theorem get?_replace_of_ne {n : Text} (h : n ≠ name) (item : ι) : (t.replace name item).get? n = t.get? n := by
  rw [get?_replace, if_neg h]

theorem has_replace (t : TableOf ι) (name : Text) (item : ι) (n : Text) : (t.replace name item).has n = t.has n := by
  rw [has, has, get?_replace]
  split_ifs
  · rw [Option.isSome_map]
  · rfl

theorem keys_replace (t : TableOf ι) (name : Text) (item : ι) :
    (t.replace name item).entries.map (·.1) = t.entries.map (·.1) := by
  rw [replace, replaceEntry, List.map_map]
  refine List.map_congr_left fun e _ => ?_
  rw [Function.comp_apply]
  split_ifs <;> rfl

/-- what a table keeps, put in its own place -/
theorem replace_of_get? (hkeys : (t.entries.map (·.1.name)).Nodup) (h : t.get? name = some item) :
    t.replace name item = t := by
  have hentries : replaceEntry t.entries name item = t.entries := by
    rw [replaceEntry]
    refine (List.map_congr_left fun e he => ?_).trans (List.map_id _)
    split_ifs with hname
    · have hitem := get?_of_mem hkeys he
      rw [beq_iff_eq.1 hname, h, Option.some.injEq] at hitem
      rw [hitem]
      rfl
    · rfl
  rw [replace, hentries]

/-- of two items put in one place the second one is there -/
theorem replace_replace (t : TableOf ι) (name : Text) (item new : ι) :
    (t.replace name item).replace name new = t.replace name new := by
  rw [replace, replace, replace, replaceEntry, replaceEntry, replaceEntry, List.map_map]
  congr 1
  refine List.map_congr_left fun e _ => ?_
  rw [Function.comp_apply]
  split_ifs <;> rfl

theorem replace_comm {n : Text} (h : n ≠ name) (t : TableOf ι) (item new : ι) :
    (t.replace name item).replace n new = (t.replace n new).replace name item := by
  rw [replace, replace, replace, replace, replaceEntry, replaceEntry, replaceEntry, replaceEntry, List.map_map,
    List.map_map]
  congr 1
  refine List.map_congr_left fun e _ => ?_
  rw [Function.comp_apply, Function.comp_apply]
  by_cases hname : e.1.name = name
  · simp [hname, h.symm]
  · by_cases hn : e.1.name = n
    · simp [hn, h]
    · simp [hname, hn]

theorem append_replace_of_ne {key : Key} (h : key.name ≠ name) (t : TableOf ι) (item new : ι) :
    (t.append key item).replace name new = (t.replace name new).append key item := by
  rw [replace, append, append, replace, replaceEntry, replaceEntry, List.map_append, List.map_singleton,
    if_neg (by simpa using h)]

theorem replaceEntry_of_none (h : t.get? name = none) (item : ι) : replaceEntry t.entries name item = t.entries := by
  rw [replaceEntry]
  refine (List.map_congr_left fun e he => ?_).trans (List.map_id _)
  have hname : ¬ (e.1.name == name) = true := by
    intro hname
    obtain ⟨found, hfound⟩ := exists_get?_of_mem he
    rw [beq_iff_eq.1 hname, h] at hfound
    cases hfound
  rw [if_neg hname]
  rfl

/-- an entry behind the others is the only one of its name -/
theorem append_replace_self {key : Key} (hkey : key.name = name) (h : t.get? name = none) (item new : ι) :
    (t.append key item).replace name new = t.append key new := by
  rw [replace, append, append, replaceEntry, List.map_append, List.map_singleton, ← replaceEntry,
    replaceEntry_of_none h, if_pos (beq_iff_eq.2 hkey)]

/-- all entries of the name keep the same, so that putting it in its place changes nothing -/
def Settled (t : TableOf ι) (name : Text) : Prop := ∀ item, t.get? name = some item → t.replace name item = t

theorem settled_of_nodup (h : (t.entries.map (·.1.name)).Nodup) (name : Text) : t.Settled name :=
  fun _ hitem => replace_of_get? h hitem

theorem settled_replace (t : TableOf ι) (name : Text) (item : ι) : (t.replace name item).Settled name := by
  intro new hnew
  rw [get?_replace, if_pos rfl] at hnew
  obtain ⟨old, -, rfl⟩ := Option.map_eq_some_iff.1 hnew
  exact replace_replace t name item item

theorem Settled.replace {n : Text} (h : t.Settled n) (hn : n ≠ name) (item : ι) : (t.replace name item).Settled n := by
  intro new hnew
  rw [get?_replace_of_ne hn] at hnew
  rw [replace_comm hn, h new hnew]

theorem settled_append {key : Key} (hkey : key.name = name) (h : t.get? name = none) (item : ι) :
    (t.append key item).Settled name := by
  intro new hnew
  rw [get?_append, h, if_pos hkey, Option.none_or, Option.some.injEq] at hnew
  rw [append_replace_self hkey h, hnew]

theorem Settled.append {key : Key} (h : t.Settled name) (hname : key.name ≠ name) (item : ι) :
    (t.append key item).Settled name := by
  intro new hnew
  rw [get?_append, if_neg hname, Option.or_none] at hnew
  rw [append_replace_of_ne hname, h new hnew]

end TableOf

end ResourceServer.Toml
