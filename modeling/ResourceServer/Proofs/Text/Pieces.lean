/-
The pieces of a text between separators.

`mem_of_mem_piecesBy`: what a piece holds comes from the text and is no separator. Slashes in front of a text add empty
pieces only (`mem_piecesBy_trimSlashes`), and two kinds of separators can be cut at one after the other (`piecesBy_or`).
-/
import Mathlib.Tactic
import ResourceServer.Text

namespace ResourceServer.Text

variable {cut : Char → Bool}

theorem piecesBy_ne_nil (cut : Char → Bool) (t : Text) : piecesBy cut t ≠ [] := by
  cases t with
  | nil => simp [piecesBy]
  | cons c rest =>
    rw [piecesBy]
    split_ifs
    · simp
    · split <;> simp

theorem piecesBy_cons_cut {c : Char} (h : cut c = true) (t : Text) : piecesBy cut (c :: t) = [] :: piecesBy cut t := by
  rw [piecesBy, if_pos h]

theorem piecesBy_cons {c : Char} {t piece : Text} {more : List Text} (h : cut c = false)
    (ht : piecesBy cut t = piece :: more) : piecesBy cut (c :: t) = (c :: piece) :: more := by
  rw [piecesBy, if_neg (by simp [h]), ht]

/-- pieces hold characters of the text that are no separators -/
theorem mem_of_mem_piecesBy {t piece : Text} {c : Char} (hp : piece ∈ piecesBy cut t) (hc : c ∈ piece) :
    c ∈ t ∧ cut c = false := by
  induction t generalizing piece with
  | nil =>
    rw [piecesBy, List.mem_singleton] at hp
    rw [hp] at hc; cases hc
  | cons d t ih =>
    cases hd : cut d with
    | true =>
      rw [piecesBy_cons_cut hd, List.mem_cons] at hp
      rcases hp with rfl | hp
      · cases hc
      · exact (ih hp hc).imp_left (List.mem_cons_of_mem _)
    | false =>
      obtain ⟨first, more, ht⟩ := List.exists_cons_of_ne_nil (piecesBy_ne_nil cut t)
      rw [piecesBy_cons hd ht, List.mem_cons] at hp
      rcases hp with rfl | hp
      · rcases List.mem_cons.1 hc with rfl | hc
        · exact ⟨List.mem_cons_self, hd⟩
        · exact (ih (ht ▸ List.mem_cons_self) hc).imp_left (List.mem_cons_of_mem _)
      · exact (ih (ht ▸ List.mem_cons_of_mem _ hp) hc).imp_left (List.mem_cons_of_mem _)

theorem not_slash_of_mem_pieces {t piece : Text} (hp : piece ∈ pieces t) : '/' ∉ piece := by
  intro hc
  have hcut := (mem_of_mem_piecesBy hp hc).2
  simp at hcut

/-- cutting at two kinds of separators is cutting at the one and then at the other -/
theorem piecesBy_or (cut cut' : Char → Bool) (t : Text) :
    piecesBy (fun c => cut c || cut' c) t = (piecesBy cut t).flatMap (piecesBy cut') := by
  induction t with
  | nil => rfl
  | cons c t ih =>
    obtain ⟨piece, more, ht⟩ := List.exists_cons_of_ne_nil (piecesBy_ne_nil cut t)
    rw [ht, List.flatMap_cons] at ih
    cases hc : cut c with
    | true =>
      rw [piecesBy_cons_cut (by simp [hc]), piecesBy_cons_cut hc, ih, ht, List.flatMap_cons, List.flatMap_cons]
      rfl
    | false =>
      rw [piecesBy_cons hc ht, List.flatMap_cons]
      cases hc' : cut' c with
      | true => rw [piecesBy_cons_cut (by simp [hc']), piecesBy_cons_cut hc', ih, List.cons_append]
      | false =>
        obtain ⟨piece', more', hpiece⟩ := List.exists_cons_of_ne_nil (piecesBy_ne_nil cut' piece)
        rw [hpiece, List.cons_append] at ih
        rw [piecesBy_cons (by simp [hc, hc']) ih, piecesBy_cons hc' hpiece, List.cons_append]

/-- separators at the front add empty pieces only -/
theorem mem_piecesBy_trimSlashes {t piece : Text} (hslash : cut '/' = true) (hne : piece ≠ []) :
    piece ∈ piecesBy cut (trimSlashes t) ↔ piece ∈ piecesBy cut t := by
  induction t with
  | nil => rfl
  | cons c t ih =>
    rw [trimSlashes, List.dropWhile_cons]
    by_cases hc : c = '/'
    · subst hc
      rw [if_pos (by simp), piecesBy_cons_cut hslash, List.mem_cons, or_iff_right hne]
      exact ih
    · rw [if_neg (by simpa using hc)]

/-- what stands before the first occurrence of a text is the front of the whole -/
theorem beforeFirst?_eq_some {needle t front : Text} (h : beforeFirst? needle t = some front) :
    ∃ tail, t = front ++ needle ++ tail := by
  induction t generalizing front with
  | nil =>
    rw [beforeFirst?] at h
    split_ifs at h with hempty
    cases h
    exact ⟨[], by rw [List.isEmpty_iff.1 hempty]; rfl⟩
  | cons c t ih =>
    rw [beforeFirst?] at h
    split_ifs at h with hprefix
    · cases h
      obtain ⟨tail, htail⟩ := List.isPrefixOf_iff_prefix.1 hprefix
      exact ⟨tail, by rw [List.nil_append, htail]⟩
    · obtain ⟨front', hfront', rfl⟩ := Option.map_eq_some_iff.1 h
      obtain ⟨tail, rfl⟩ := ih hfront'
      exact ⟨tail, rfl⟩

end ResourceServer.Text
